import CallSieve.Matcher
import CallSieve.TypeTable

namespace CallSieve

inductive SiteKind where
  | declaration
  /-- A call, on a receiver or unqualified. -/
  | invocation
  | newClass
  | methodReference
  deriving DecidableEq, Repr

def SiteKind.render : SiteKind → String
  | .declaration => "declaration"
  | .invocation => "invocation"
  | .newClass => "new-class"
  | .methodReference => "method-reference"

def SiteKind.all : List SiteKind := [.declaration, .invocation, .newClass, .methodReference]

/-- A node of a program. The receiver of an unqualified call is the enclosing
    class; the interface is what a method reference is converted to. -/
structure Site where
  line : UInt32
  kind : SiteKind
  method : Option MethodId
  receiver : Option String
  interface : Option String
  deriving DecidableEq, Repr

/-- The symbol of a type, which is no method. -/
def Symbol.ofType (r : TypeRef) : Symbol TypeRef := ⟨Hierarchy.name r, false, Hierarchy.isUnknown r, none, []⟩

def Symbol.unknown {τ : Type} : Symbol τ := ⟨Hierarchy.unknownName, false, true, none, []⟩

namespace Site

/-- Calls and method references have a call site if they have a receiver. -/
def callSite (s : Site) (t : TypeTable) : Option TypeRef :=
  match s.kind with
  | .invocation | .methodReference => s.receiver.map t.get
  | .declaration | .newClass => none

def subject (s : Site) (t : TypeTable) : Subject TypeRef := ⟨s.method.bind t.symbol?, s.callSite t⟩

/-- The symbol handed out for the site: that of its method, but for a method
    reference that of the interface it is converted to. -/
def symbol (s : Site) (t : TypeTable) : Symbol TypeRef :=
  match s.kind with
  | .methodReference => (s.interface.map fun i => Symbol.ofType (t.get i)).getD .unknown
  | .declaration | .invocation | .newClass => (s.method.bind t.symbol?).getD .unknown

end Site

/-- Whether sites are matched as nodes or by their symbols. -/
inductive Mode where
  | tree
  | symbol
  deriving DecidableEq, Repr

def Mode.accepts (mode : Mode) (ms : Matchers TypeRef) (t : TypeTable) (s : Site) : Bool :=
  match mode with
  | .tree => ms.accepts (s.subject t)
  | .symbol => ms.acceptsSymbol (s.symbol t)

end CallSieve
