import Directives.Json.Write

/-! JSON text over several lines.

Each item and each member has a line of its own, two spaces further in than its
container; a container that holds nothing stays on its line. -/
namespace Directives

namespace Write

/-- A line break and the indentation behind it. -/
def newLine (depth : Nat) : Text :=
  '\n' :: List.replicate (2 * depth) ' '

end Write

mutual

/-- The text of a value that stands `depth` containers deep. -/
def Value.prettyAt (depth : Nat) : Value → Text
  | .array [] => ['[', ']']
  | .object [] => ['{', '}']
  | .array items =>
    '[' :: (Value.prettyItems (depth + 1) items ++ Write.newLine depth ++ [']'])
  | .object members =>
    '{' :: (Value.prettyMembers (depth + 1) members ++ Write.newLine depth ++ ['}'])
  | v => v.compact

/-- Items with commas between them. -/
def Value.prettyItems (depth : Nat) : List Value → Text
  | [] => []
  | [v] => Write.newLine depth ++ v.prettyAt depth
  | v :: w :: rest =>
    Write.newLine depth ++ v.prettyAt depth ++ ',' :: Value.prettyItems depth (w :: rest)

/-- Members with commas between them. -/
def Value.prettyMembers (depth : Nat) : List (Text × Value) → Text
  | [] => []
  | [(k, v)] => Write.newLine depth ++ Write.string k ++ ':' :: ' ' :: v.prettyAt depth
  | (k, v) :: m :: rest =>
    Write.newLine depth ++ Write.string k ++ ':' :: ' ' :: v.prettyAt depth ++
      ',' :: Value.prettyMembers depth (m :: rest)

end

/-- The text of a value over several lines. -/
def Value.pretty (v : Value) : Text :=
  v.prettyAt 0

end Directives
