import Curfew.Proofs.Engine.Effect
import Curfew.Proofs.SavedState

namespace Curfew

/-! What one operation can make of a protector. -/

section Related

variable {α β γ : Type} {before : α → β → Prop} {left : Option α}

theorem eq_none_of_rel (related : Option.Rel before left none) : left = none := by
  cases related
  rfl

theorem exists_of_rel {b : β} (related : Option.Rel before left (some b)) :
    ∃ a, left = some a ∧ before a b := by
  cases related with
  | some holds => exact ⟨_, rfl, holds⟩

theorem rel_map_left {after : γ → β → Prop} {f : α → γ} {right : Option β}
    (related : Option.Rel before left right) (keeps : ∀ a b, before a b → after (f a) b) :
    Option.Rel after (left.map f) right := by
  cases related with
  | none => exact .none
  | some holds => exact .some (keeps _ _ holds)

end Related

namespace Protector

/-- A protector before and after one operation, which hands over an instant or none. -/
inductive Move (given : Option Instant) (before : Protector) : Protector → Prop where
  | stay : Move given before before
  | synchronize (now : Instant) (told : given = some now) :
      Move given before (before.synchronize now)
  | stop {after : Protector} (kind : after.kind = before.kind)
      (duration : after.duration = before.duration) (idle : after.countdown? = none) :
      Move given before after
  | start {after : Protector} (now : Instant) (told : given = some now)
      (kind : after.kind = before.kind) (duration : after.duration = before.duration)
      (full : after.countdown? = some ⟨after.duration, now⟩) : Move given before after
  | restore {after : Protector} (state : SavedState) (applied : state.apply before = .ok after) :
      Move given before after

variable {given : Option Instant} {before after : Protector}

theorem Move.kind (move : Move given before after) : after.kind = before.kind := by
  cases move with
  | stay => rfl
  | synchronize now told => exact before.kind_synchronize now
  | stop kind duration idle => exact kind
  | start now told kind duration full => exact kind
  | restore state applied => exact (SavedState.apply_cases applied).1

theorem Move.duration (move : Move given before after) : after.duration = before.duration := by
  cases move with
  | stay => rfl
  | synchronize now told => exact before.duration_synchronize now
  | stop kind duration idle => exact duration
  | start now told kind duration full => exact duration
  | restore state applied => exact (SavedState.apply_cases applied).2.1

theorem Move.sound (move : Move given before after) (sound : before.Sound) : after.Sound := by
  cases move with
  | stay => exact sound
  | synchronize now told => exact sound.synchronize now
  | stop kind duration idle => exact sound_of_idle idle
  | start now told kind duration full => exact sound_of_full full
  | restore state applied => exact SavedState.apply_sound applied

theorem readable_of_idle (idle : after.countdown? = none) : after.Readable := by
  intro countdown counting
  rw [idle] at counting
  contradiction

theorem readable_of_full {now : Instant} (readable : now.Readable)
    (full : after.countdown? = some ⟨after.duration, now⟩) : after.Readable := by
  intro countdown counting
  rw [full] at counting
  cases counting
  exact readable

theorem readable_synchronize {now : Instant} (readable : now.Readable) :
    (before.synchronize now).Readable := by
  intro countdown counting
  rw [previous_of_synchronize counting]
  exact readable

theorem Move.readable (move : Move given before after) (readable : before.Readable)
    (told : ∀ now ∈ given, now.Readable) : after.Readable := by
  cases move with
  | stay => exact readable
  | synchronize now same => exact readable_synchronize (told now same)
  | stop kind duration idle => exact readable_of_idle idle
  | start now same kind duration full => exact readable_of_full (told now same) full
  | restore state applied => exact SavedState.apply_readable applied

end Protector

namespace Engine

/-- The instant that an operation hands over. -/
def Operation.instant? : Operation → Option Instant
  | .synchronize now | .plead _ now | .start _ now | .insert _ now => some now
  | _ => none

theorem move_effect (id : String) (protector : Protector) (operation : Operation) :
    protector.Move operation.instant? (operation.effect id protector) := by
  cases operation with
  | synchronize now => exact .synchronize now rfl
  | plead target now =>
      simp only [Operation.effect]
      split
      · obtain timed | ⟨grace, status⟩ := protector
        · exact .stay
        · cases status with
          | activated => exact .start now rfl rfl rfl rfl
          | deactivating countdown => exact .stay
          | deactivated => exact .stay
      · exact .stay
  | rearm target =>
      simp only [Operation.effect]
      split
      · cases protector with
        | timed timed => exact .stay
        | plea plea => exact .stop rfl rfl rfl
      · exact .stay
  | start target now =>
      simp only [Operation.effect]
      split
      · cases protector with
        | timed timed => exact .start now rfl rfl rfl rfl
        | plea plea => exact .stay
      · exact .stay
  | restore states =>
      simp only [Operation.effect]
      cases states.get? id with
      | none => exact .stay
      | some state =>
          cases applied : state.apply protector with
          | error reason => simpa [Protector.restored, applied] using .stay
          | ok after => simpa [Protector.restored, applied] using .restore state applied
  | decision | decisionAt | insert | remove | save => exact .stay

end Engine

end Curfew
