import SchedulerLink.Proofs.Scene
import SchedulerLink.Rehearsal.Stage

/-!
A stage whose calls are answered from a script is a scene.
-/

namespace SchedulerLink

namespace Stage

theorem fire_still (stage : Stage) (cues : List Cue) :
    (stage.fire cues).clock = stage.clock ∧ (stage.fire cues).log = stage.log := by
  induction cues generalizing stage with
  | nil => exact ⟨rfl, rfl⟩
  | cons cue rest ih =>
    have happened : (stage.happen cue.happening).clock = stage.clock ∧
        (stage.happen cue.happening).log = stage.log := by
      cases cue.happening with
      | stop => exact ⟨rfl, rfl⟩
      | fileChange _ => exact ⟨rfl, rfl⟩
      | answer later => cases known : stage.registry <;> simp [happen, known]
    rw [fire]
    split
    · exact ⟨(ih _).1.trans happened.1, (ih _).2.trans happened.2⟩
    · exact ⟨rfl, rfl⟩

theorem pause_run (span : Duration) (stage : Stage) :
    ((pause span).run stage).2 =
      { stage with log := .slept span :: stage.log, clock := stage.clock + span }.fire stage.cues :=
  rfl

def scene (stage : Stage) (login : String → Except LoginError Login) : Scene Stage where
  surroundings := stage.surroundings .script login
  clock := clock
  stopping := stopping
  log state := state.log.reverse
  now_run _ := rfl
  isStopping_run _ := rfl
  pause_clock span state := by
    change ((pause span).run state).2.clock = _
    rw [pause_run, (fire_still _ _).1]
  pause_log span state := by
    change ((pause span).run state).2.log.reverse = _
    rw [pause_run, (fire_still _ _).2, List.reverse_cons]
  lookup_clock _ _ _ := rfl
  lookup_log _ _ _ := List.reverse_cons
  create_clock _ _ _ := rfl
  create_log _ _ _ := List.reverse_cons
  open_clock _ _ := rfl
  open_log _ _ := List.reverse_cons
  close_clock _ _ := rfl
  close_log _ _ := ⟨_, List.reverse_cons⟩
  adopt_clock _ _ := rfl
  adopt_log _ _ := List.reverse_cons
  call_clock _ _ _ _ _ := rfl
  call_log _ _ _ _ _ := List.reverse_cons

end Stage

def Session.hasty : Session Nat where
  cluster := { name := "west", schedulerUri := some "http://scheduler:8081" }
  options := {}
  policy := { baseDelay := .ofSeconds 2, longestWait := .ofSeconds 4 }

end SchedulerLink
