import Directives.Proofs.ClosingName
import Directives.Proofs.Grammar.Tight

/-! Another body in a block.

A scan looks ahead for closing words, as far as the end of the text, so that a change
far behind might undo a block in front of it. A change of a body that leaves no `@` in
it does not: a closing word lies in front of the opener's colon or behind the body
(`HoldsWord.replace`). So nothing that was read in front of the block is read otherwise
(`Stands.replace`), nothing new is read there (`at?_eq_none_replace`), the block itself
is read with the body it now has (`stands_withBody`), and the two scans go on alike
(`located_replace`). -/
namespace Directives

open Text (AllBlank byteSize)

/-! ### What lies in front of an `@` -/

namespace Marker

theorem skip?_append_at {marker : Text} (h : '@' ∉ marker) (p x : Text) :
    skip? marker (p ++ '@' :: x) = (skip? marker p).map (· ++ '@' :: x) := by
  unfold skip?
  rw [Text.after?_append_cons h, Option.map_map, Option.map_map]
  congr 1
  funext rest
  exact Text.trimStart_append (Text.trimStart_at x) rest

theorem skip_append_at {marker : Text} (h : '@' ∉ marker) (p x : Text) :
    skip marker (p ++ '@' :: x) = skip marker p ++ '@' :: x := by
  unfold skip
  rw [skip?_append_at h]
  cases skip? marker p <;> rfl

theorem skipFloating_append_at {marker : Text} (h : '@' ∉ marker) (p x : Text) :
    skipFloating marker (p ++ '@' :: x) = skipFloating marker p ++ '@' :: x := by
  unfold skipFloating
  rw [Text.trimStart_append (Text.trimStart_at x), skip?_append_at h]
  cases skip? marker (Text.trimStart p) <;> rfl

end Marker

/-! ### In front of a place -/

namespace Scan

variable {r : Reading}

/-- With `u'` in place of `u` at its end, a scan of `s` finds the same in front of it, and reaches it. -/
structure SameInFront (r : Reading) (s u u' : Text) : Prop where
  split : ∃ front, s = front ++ u ∧ Reaches r.at? (front ++ u') u' ∧ ∀ position, ∃ before,
    located.go position (ofText r.at? s).found =
      before ++ located.go (position + byteSize front) (ofText r.at? u).found ∧
    located.go position (ofText r.at? (front ++ u')).found =
      before ++ located.go (position + byteSize front) (ofText r.at? u').found ∧
    ∀ found ∈ before, found.1 + byteSize found.2.text ≤ position + byteSize front

/-- A scan comes to a place as before where the change behind it neither undoes what is read in front
of it nor adds to that. -/
theorem Reaches.replace {s u u' : Text} (hstands : ∀ {o gap}, r.Stands o (gap ++ u) → r.Stands o (gap ++ u'))
    (hnone : ∀ {p}, r.at? (p ++ u) = none → r.at? (p ++ u') = none) (h : Reaches r.at? s u) :
    SameInFront r s u u' := by
  induction h with
  | here s => exact ⟨[], rfl, .here _, fun position => ⟨[], rfl, rfl, fun _ hmem => nomatch hmem⟩⟩
  | @char c s t hat _ ih =>
    obtain ⟨front, rfl, hreaches, hall⟩ := ih hstands hnone
    have hat' : r.at? (c :: (front ++ u')) = none := hnone (p := c :: front) hat
    refine ⟨c :: front, rfl, .char hat' hreaches, fun position => ?_⟩
    obtain ⟨before, hold, hnew, hends⟩ := hall (position + c.utf8Size)
    rw [Nat.add_assoc position] at hold hnew hends
    exact ⟨before, (go_of_none hat position).trans hold, (go_of_none hat' position).trans hnew, hends⟩
  | @occurrence s rest t found hsome hs _ ih =>
    obtain ⟨front, rfl, hreaches, hall⟩ := ih hstands hnone
    obtain ⟨after, hs', hfound⟩ := r.at?_eq_some_iff.mp hsome
    obtain rfl := List.append_cancel_left (hs.symm.trans hs')
    subst hs
    have hfound' := hstands hfound
    have hsome' := r.at?_eq_some_iff.mpr ⟨_, rfl, hfound'⟩
    refine ⟨found.text ++ front, (List.append_assoc ..).symm, ?_, fun position => ?_⟩
    · rw [List.append_assoc]
      exact .occurrence hsome' rfl hreaches
    obtain ⟨before, hold, hnew, hends⟩ := hall (position + byteSize found.text)
    rw [Nat.add_assoc position, ← Text.byteSize_append] at hold hnew hends
    refine ⟨(position, found) :: before, ?_, ?_, ?_⟩
    · exact (go_of_some hfound position).trans (congrArg _ hold)
    · rw [List.append_assoc]
      exact (go_of_some hfound' position).trans (congrArg _ hnew)
    · intro pair hmem
      rcases List.mem_cons.mp hmem with rfl | hmem
      · show position + byteSize found.text ≤ position + byteSize (found.text ++ front)
        rw [Text.byteSize_append]
        omega
      · exact hends pair hmem

end Scan

namespace Block

theorem skipClosingMarkers_append_at (p x : Text) :
    skipClosingMarkers (p ++ '@' :: x) = skipClosingMarkers p ++ '@' :: x := by
  unfold skipClosingMarkers
  rw [Marker.skipFloating_append_at (by decide), Marker.skipFloating_append_at (by decide)]

theorem skipClosingWord?_append_at {p : Text} (h : '@' ∈ p) (x : Text) :
    skipClosingWord? (p ++ '@' :: x) = (skipClosingWord? p).map (· ++ '@' :: x) := by
  have hat : '@' ∈ Marker.skip Marker.lineOpen (Text.trimStart p) := by
    obtain ⟨marker, hm, hp⟩ := Marker.exists_skip Marker.lineOpen (Text.trimStart p)
    have hmem := Text.mem_trimStart (by decide) h
    rw [hp] at hmem
    exact (List.mem_append.mp hmem).resolve_left (hm.notMem (by decide) (by decide))
  unfold skipClosingWord?
  rw [Text.trimStart_append (Text.trimStart_at x), Marker.skip_append_at (by decide)]
  obtain ⟨c, s, hcs⟩ := List.exists_cons_of_ne_nil (List.ne_nil_of_mem hat)
  rw [hcs, List.cons_append]
  show (if '@' = c then _ else none) = Option.map _ (if '@' = c then _ else none)
  split
  · exact Text.after?_append_cons (by decide) s x
  · rfl

/-- A closer with an `@` in front of another one does not see what follows that one. -/
theorem close?_append_at {name p : Text} (hname : isName name = true) (h : '@' ∈ p) (x : Text) :
    close? name (p ++ '@' :: x) = (close? name p).map (· ++ '@' :: x) := by
  have hat : '@' ∉ name := notMem_of_isName hname (by decide)
  unfold close?
  rw [skipClosingWord?_append_at h]
  cases skipClosingWord? p with
  | none => rfl
  | some rest =>
    simp only [Option.map_some, Option.bind_eq_bind, Option.bind_some]
    rw [Text.after?_append_cons hat, Text.after?_append_cons (by decide)]
    cases Text.after? name rest with
    | some t => simp [skipClosingMarkers_append_at]
    | none => cases Text.after? anyName rest <;> simp [skipClosingMarkers_append_at]

/-! ### Closing words -/

/-- A closing word lies in front of the colon or behind what holds no `@`. -/
theorem HoldsWord.replace {name front old new z : Text} (hname : isName name = true) (hnew : '@' ∉ new)
    (h : HoldsWord name (front ++ ':' :: (new ++ z))) : HoldsWord name (front ++ ':' :: (old ++ z)) := by
  obtain ⟨word, hw, hin⟩ := h
  refine ⟨word, hw, ?_⟩
  rcases Text.infix_or_of_notMem (hw.notMem hname (by decide) (by decide)) hin with hin | hin
  · exact hin.trans (List.prefix_append ..).isInfix
  · obtain ⟨t, rfl, -, -⟩ := hw.exists_eq_cons hname
    have hz : '@' :: t <:+: z := (Text.infix_append_of_notMem hnew z).mp hin
    exact hz.trans ⟨front ++ ':' :: old, [], by simp⟩

theorem HoldsWord.replace_tail {name front n old new z : Text} (hname : isName name = true)
    (hnew : '@' ∉ new) (h : HoldsWord name (front ++ '@' :: (n ++ ':' :: (new ++ z))).tail) :
    HoldsWord name (front ++ '@' :: (n ++ ':' :: (old ++ z))).tail := by
  have hsplit : ∀ w, (front ++ '@' :: (n ++ ':' :: w)).tail = (front ++ '@' :: n).tail ++ ':' :: w := by
    intro w
    rw [← List.tail_append_of_ne_nil (by simp)]
    simp
  rw [hsplit] at h ⊢
  exact h.replace hname hnew

/-! ### In front of the block -/

theorem close?_replace {name p rest x y : Text} (hname : isName name = true) (hp : '@' ∈ p)
    (h : close? name (p ++ '@' :: x) = some (rest ++ '@' :: x)) :
    close? name (p ++ '@' :: y) = some (rest ++ '@' :: y) := by
  rw [close?_append_at hname hp] at h ⊢
  obtain ⟨r, hr, heq⟩ := Option.map_eq_some_iff.mp h
  rw [hr, List.append_cancel_right heq, Option.map_some]

theorem at_mem_closer {o : Occurrence} {rest : Text} (h : reading.Stands o rest) : '@' ∈ o.closer := by
  obtain ⟨before, word, after, -, hw, -, hcloser, -⟩ := exists_closer h
  obtain ⟨t, rfl, -, -⟩ := hw.exists_eq_cons h.named
  rw [hcloser]
  simp

/-- What stands in front of the block is read as before. -/
theorem Stands.replace {o : Occurrence} {gap name old new z : Text} (hnew : '@' ∉ new)
    (h : reading.Stands o (gap ++ '@' :: (name ++ ':' :: (old ++ z)))) :
    reading.Stands o (gap ++ '@' :: (name ++ ':' :: (new ++ z))) := by
  have hat : ∀ d : Text, '@' ∈ d ++ (o.closer ++ gap) := by simp [at_mem_closer h]
  have hfound := h.found
  refine ⟨h.named, h.opener, ?_⟩
  show Body.find Body.shortest (close? o.name) _ = _
  rw [List.append_assoc, ← List.append_assoc o.closer] at hfound ⊢
  refine Body.find_congr Body.shortest_eq_some Body.Ends.shortest_eq hfound ?_ (fun d hd => ?_) (fun hstart => ?_)
    fun _ hnone => ?_
  · have hclose := close?_closer h
    rw [← List.append_assoc] at hclose
    exact close?_replace h.named (hat []) hclose
  · rw [← List.append_assoc] at hd ⊢
    rw [close?_append_at h.named (hat d), Option.map_eq_none_iff] at hd ⊢
    exact hd
  · rw [Text.trimStart_append (Text.trimStart_at _)] at hstart ⊢
    rw [List.append_cancel_right hstart]
  · rw [shortest_eq_none_iff] at hnone ⊢
    exact fun hword => hnone (hword.replace_tail h.named hnew)

/-- Where nothing was read, nothing is, if the block was closed further on than at once. -/
theorem at?_eq_none_replace {p name old new z : Text} (hname : isName name = true) (hnew : '@' ∉ new)
    (hword : HoldsWord name (old ++ z).tail) (h : at? (p ++ '@' :: (name ++ ':' :: (old ++ z))) = none) :
    at? (p ++ '@' :: (name ++ ':' :: (new ++ z))) = none := by
  rw [← Option.not_isSome_iff_eq_none]
  intro hsome
  -- an opener is read in both texts, and it has a closing word in the old one too
  suffices hold : ∃ n rest, open? (p ++ '@' :: (name ++ ':' :: (old ++ z))) = some (n, rest) ∧
      HoldsWord n rest.tail by
    obtain ⟨n, rest, hopen, hholds⟩ := hold
    have hat := (at?_isSome_iff hopen).mpr hholds
    rw [h] at hat
    cases hat
  obtain ⟨o, after, hs, hstands⟩ := reading.isSome_at?_iff.mp hsome
  have hopen := hstands.open?_eq
  rw [← hs] at hopen
  have hholds := (at?_isSome_iff hopen).mp hsome
  obtain ⟨hn, markers, hm, hsplit⟩ := open?_eq_some_iff.mp hopen
  by_cases hp : '@' ∈ p
  · obtain ⟨q, t, rfl, hq⟩ := List.eq_append_cons_of_mem hp
    rw [List.append_assoc, List.cons_append] at hsplit
    obtain ⟨rfl, hbehind⟩ := Text.append_cons_inj hq hm.notMem hsplit
    have hcolon : '@' ∉ o.name ++ [':'] :=
      List.not_mem_append (notMem_of_isName hn (by decide)) (by decide)
    obtain ⟨u, rfl⟩ := Text.prefix_of_notMem hcolon
      ⟨o.blank ++ o.body ++ o.closer ++ after, by rw [hbehind]; simp⟩
    have hrest : o.blank ++ o.body ++ o.closer ++ after = u ++ '@' :: (name ++ ':' :: (new ++ z)) := by
      simpa using hbehind.symm
    rw [hrest] at hholds
    refine ⟨o.name, u ++ '@' :: (name ++ ':' :: (old ++ z)), ?_, hholds.replace_tail hn hnew⟩
    exact open?_eq_some_iff.mpr ⟨hn, q, hm, by simp⟩
  · obtain ⟨rfl, hbehind⟩ := Text.append_cons_inj hp hm.notMem hsplit
    exact ⟨name, old ++ z, open?_eq_some_iff.mpr ⟨hname, p, hm, rfl⟩, hword⟩

end Block

/-! ### The block itself -/

/-- The occurrence with another body. -/
def Occurrence.withBody (o : Occurrence) (body : Text) : Occurrence :=
  { o with body := body }

namespace Block

/-- The block is read with the body it now has. -/
theorem stands_withBody {o : Occurrence} {rest body : Text} (h : reading.Stands o rest)
    (hbody : Tight body) : reading.Stands (o.withBody body) rest := by
  refine ⟨h.named, h.opener, ?_⟩
  obtain ⟨before, word, after, hbefore, hw, -, hcloser, -⟩ := exists_closer h
  have hclose := close?_closer h
  rw [hcloser, List.append_assoc, List.append_assoc] at hclose
  have hends := hbody.ends h.named hbefore hw (fun s a hs => close?_isSome_iff.mp (by rw [hs]; rfl)) hclose
  have hfind := Body.find_eq h.blank_allBlank (hbody.firm.trimStart_append _) hends.shortest_eq
  show Body.find Body.shortest (close? o.name) (o.blank ++ body ++ o.closer ++ rest) = _
  rw [hcloser]
  simpa [Occurrence.withBody] using hfind

/-! ### The whole scan -/

/-- What holds no `@`, in place of all between colon and closer, leaves what is in front as it is. -/
theorem reaches_replace {o : Occurrence} {rest new s : Text} (ho : reading.Stands o rest) (hnew : '@' ∉ new)
    (h : Scan.Reaches at? s (o.text ++ rest)) :
    Scan.SameInFront reading s (o.text ++ rest) (o.opener ++ (new ++ (o.closer ++ rest))) := by
  obtain ⟨markers, -, hopener⟩ := ho.opener
  have hopener : o.opener = markers ++ '@' :: (o.name ++ [':']) := hopener
  have hword : HoldsWord o.name (o.blank ++ o.body ++ (o.closer ++ rest)).tail := by
    have hsome : (at? (o.text ++ rest)).isSome = true :=
      reading.isSome_at?_iff.mpr ⟨o, rest, rfl, ho⟩
    rw [← List.append_assoc]
    exact (at?_isSome_iff ho.open?_eq).mp hsome
  have hsplit : ∀ p inside, p ++ (o.opener ++ (inside ++ (o.closer ++ rest))) =
      p ++ markers ++ '@' :: (o.name ++ ':' :: (inside ++ (o.closer ++ rest))) := by
    intro p inside
    simp [hopener]
  have htext : o.text ++ rest = o.opener ++ (o.blank ++ o.body ++ (o.closer ++ rest)) := by
    simp [Occurrence.text]
  refine Scan.Reaches.replace (r := reading) (fun hstands => ?_) (fun hnone => ?_) h
  · rw [htext, hsplit] at hstands
    rw [hsplit]
    exact Stands.replace hnew hstands
  · rw [htext, hsplit] at hnone
    rw [hsplit]
    exact at?_eq_none_replace ho.named hnew hword hnone

/-- The scans of both texts find the same in front of the block, the block, and the same
behind it. -/
theorem located_replace {o : Occurrence} {rest body s t : Text} (ho : reading.Stands o rest)
    (hbody : Tight body) (h : Scan.Reaches at? s t) (ht : t = o.text ++ rest) :
    ∃ front, s = front ++ (o.text ++ rest) ∧ ∀ position, ∃ before,
      Scan.located.go position (Scan.blocks s).found =
        before ++ (position + byteSize front, o) ::
          Scan.located.go (position + byteSize front + byteSize o.text) (Scan.blocks rest).found ∧
      Scan.located.go position (Scan.blocks (front ++ ((o.withBody body).text ++ rest))).found =
        before ++ (position + byteSize front, o.withBody body) ::
          Scan.located.go (position + byteSize front + byteSize (o.withBody body).text)
            (Scan.blocks rest).found ∧
      ∀ found ∈ before, found.1 + byteSize found.2.text ≤ position + byteSize front := by
  have hat : '@' ∉ o.blank ++ body :=
    List.not_mem_append (ho.blank_allBlank.notMem (by decide)) hbody.at_notMem
  have htext : o.opener ++ (o.blank ++ body ++ (o.closer ++ rest)) = (o.withBody body).text ++ rest := by
    simp [Occurrence.text, Occurrence.withBody]
  obtain ⟨front, hs, -, hall⟩ := reaches_replace ho hat (ht ▸ h)
  rw [htext] at hall
  refine ⟨front, hs, fun position => ?_⟩
  obtain ⟨before, hold, hnew, hends⟩ := hall position
  refine ⟨before, ?_, ?_, hends⟩
  · exact hold.trans (congrArg _ (Scan.go_of_some (r := reading) ho _))
  · exact hnew.trans (congrArg _ (Scan.go_of_some (r := reading) (stands_withBody ho hbody) _))

end Block
end Directives
