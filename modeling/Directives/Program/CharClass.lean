import Directives.Program.Octets

/-! Named classes of bytes, as they stand between `[:` and `:]`. -/
namespace Directives.Program

/-- A class of ASCII characters. -/
inductive CharClass where
  | alnum | alpha | blank | cntrl | digit | graph | lower | print | punct | space | upper | xdigit
  deriving DecidableEq, Repr

namespace CharClass

/-- The classes and their names. -/
def named : List (Text × CharClass) :=
  [("alnum", .alnum), ("alpha", .alpha), ("blank", .blank), ("cntrl", .cntrl), ("digit", .digit),
    ("graph", .graph), ("lower", .lower), ("print", .print), ("punct", .punct),
    ("space", .space), ("upper", .upper), ("xdigit", .xdigit)]

/-- The class of a name. -/
def ofName? (name : Text) : Option CharClass :=
  named.lookup name

/-- Whether a character is in a class. -/
def has (k : CharClass) (c : Char) : Bool :=
  match k with
  | .alnum => c.isAlphanum
  | .alpha => c.isAlpha
  | .blank => c = ' ' || c = '\t'
  | .cntrl => c < ' ' || c = '\x7f'
  | .digit => Octets.isDigit c
  | .graph => Octets.isPrint c && c ≠ ' '
  | .lower => 'a' ≤ c && c ≤ 'z'
  | .print => Octets.isPrint c
  | .punct => Octets.isPrint c && c ≠ ' ' && !c.isAlphanum
  | .space => c = ' ' || ('\t' ≤ c && c ≤ '\r')
  | .upper => 'A' ≤ c && c ≤ 'Z'
  | .xdigit => Octets.digitValue c < 16

end CharClass
end Directives.Program
