import Directives.Directive

/-! What parsing a text comes to.

An action has an outcome and leaves effects behind; the lemmas on `Act` run one a
step at a time. Parsing is an action only for its reports: its outcome is the
tokens of the text, each bound to its command, whatever the effects so far are
(`Directive.parse_fst`). -/
namespace Directives

variable {σ α β : Type}

/-! ### Actions -/

namespace Act

theorem bind_apply (a : Act σ α) (f : α → Act σ β) (e : Effects σ) : (a >>= f) e = f (a e).1 (a e).2 :=
  rfl

theorem pure_apply (a : α) (e : Effects σ) : (pure a : Act σ α) e = (a, e) :=
  rfl

theorem map_apply (f : α → β) (a : Act σ α) (e : Effects σ) : (f <$> a) e = (f (a e).1, (a e).2) :=
  rfl

/-- Where each step's outcome is a function of its item, so is the whole's. -/
theorem mapM_fst {f : α → Act σ β} {g : α → β} (h : ∀ a e, (f a e).1 = g a) (l : List α)
    (e : Effects σ) : (l.mapM f e).1 = l.map g := by
  induction l generalizing e with
  | nil => rfl
  | cons a l ih =>
    rw [List.mapM_cons, bind_apply, bind_apply, pure_apply, h, ih, List.map_cons]

/-- Where each step leaves the world alone, so does the whole. -/
theorem mapM_world {f : α → Act σ β} (h : ∀ a e, (f a e).2.world = e.world) (l : List α)
    (e : Effects σ) : (l.mapM f e).2.world = e.world := by
  induction l generalizing e with
  | nil => rfl
  | cons a l ih =>
    rw [List.mapM_cons, bind_apply, bind_apply, pure_apply, ih, h]

end Act

/-! ### Directives of a text -/

namespace Directive

/-- The directive of a token of the text `raw`. -/
def bound (registry : Registry σ) (stripTabs : Bool) (raw : Text) (token : Token) : Directive σ where
  raw := raw
  token := token
  parameter := Parameter.decode token.content
  binding := registry.resolve? (camelCase token.name)
  stripTabs := stripTabs

theorem ofToken_fst (registry : Registry σ) (stripTabs : Bool) (raw : Text) (token : Token)
    (e : Effects σ) : (ofToken registry stripTabs raw token e).1 = bound registry stripTabs raw token := by
  unfold ofToken
  simp only
  split <;> rfl

theorem parse_fst (registry : Registry σ) (stripTabs : Bool) (text : Text) (e : Effects σ) :
    (parse registry stripTabs text e).1 =
      (Token.ofText stripTabs text).map (List.map (bound registry stripTabs text)) := by
  unfold parse
  cases Token.ofText stripTabs text with
  | error error => rfl
  | ok tokens =>
    show ((Except.ok <$> tokens.mapM (ofToken registry stripTabs text)) e).1 = _
    rw [Act.map_apply, Act.mapM_fst (ofToken_fst registry stripTabs text)]
    rfl

theorem ofToken_world (registry : Registry σ) (stripTabs : Bool) (raw : Text) (token : Token)
    (e : Effects σ) : (ofToken registry stripTabs raw token e).2.world = e.world := by
  unfold ofToken
  simp only
  split <;> rfl

/-- Parsing leaves the world alone. -/
theorem parse_world (registry : Registry σ) (stripTabs : Bool) (text : Text) (e : Effects σ) :
    (parse registry stripTabs text e).2.world = e.world := by
  unfold parse
  cases Token.ofText stripTabs text with
  | error error => rfl
  | ok tokens => exact Act.mapM_world (ofToken_world registry stripTabs text) tokens e

/-- The directives that are parsed are the tokens, bound. -/
theorem parse_eq_ok_iff {registry : Registry σ} {stripTabs : Bool} {text : Text} {e : Effects σ}
    {ds : List (Directive σ)} : (parse registry stripTabs text e).1 = .ok ds ↔
      ∃ tokens, Token.ofText stripTabs text = .ok tokens ∧
        ds = tokens.map (bound registry stripTabs text) := by
  rw [parse_fst]
  cases Token.ofText stripTabs text with
  | error error => exact ⟨fun h => (nomatch h), fun ⟨_, h, _⟩ => nomatch h⟩
  | ok tokens =>
    constructor
    · intro h
      cases h
      exact ⟨tokens, rfl, rfl⟩
    · rintro ⟨tokens', htokens, rfl⟩
      cases htokens
      rfl

theorem parse_of_ofText {stripTabs : Bool} {text : Text} {tokens : List Token}
    (h : Token.ofText stripTabs text = .ok tokens) (registry : Registry σ) (e : Effects σ) :
    (parse registry stripTabs text e).1 = .ok (tokens.map (bound registry stripTabs text)) :=
  parse_eq_ok_iff.mpr ⟨tokens, h, rfl⟩

/-- Parsing fails where reading the tokens does. -/
theorem parse_eq_error_iff {registry : Registry σ} {stripTabs : Bool} {text : Text} {e : Effects σ}
    {error : GrammarError} :
    (parse registry stripTabs text e).1 = .error error ↔ Token.ofText stripTabs text = .error error := by
  rw [parse_fst]
  cases Token.ofText stripTabs text with
  | error _ => exact ⟨fun h => by cases h; rfl, fun h => by cases h; rfl⟩
  | ok _ => exact ⟨fun h => (nomatch h), fun h => (nomatch h)⟩

end Directive
end Directives
