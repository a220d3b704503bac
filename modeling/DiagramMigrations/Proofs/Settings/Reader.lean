import DiagramMigrations.Proofs.Calendar.Reader
import DiagramMigrations.Proofs.Except
import DiagramMigrations.Settings.Reader

/-!
Settings that are read from a text. Their timestamp, if they have one, is a time that a clock shows.
-/

set_option autoImplicit false
set_option relaxedAutoImplicit false

namespace DiagramMigrations.Settings

/-- Whether the timestamp of settings, if there is one, is a time that a clock shows. -/
def HasValidTime (s : Settings) : Prop :=
  ∀ t, s.timestamp = some t → t.Valid

theorem HasValidTime.of_timestamp_eq {s next : Settings} (hs : s.HasValidTime)
    (h : next.timestamp = s.timestamp) : next.HasValidTime :=
  fun t ht ↦ hs t (h ▸ ht)

theorem assign_hasValidTime {s next : Settings} {entry : String × Value} (hs : s.HasValidTime)
    (h : s.assign entry = .ok next) : next.HasValidTime := by
  unfold assign at h
  split at h
  case h_6 text =>
    split at h
    case h_1 timestamp hread =>
      obtain rfl := Except.ok.inj h
      intro t ht
      obtain rfl := Option.some.inj ht
      exact Calendar.parse?_valid hread
    case h_2 => exact absurd h (by simp)
  case h_7 => exact absurd h (by simp)
  all_goals exact hs.of_timestamp_eq (Except.ok.inj h ▸ rfl)

/-- Settings that are read have a valid timestamp or none. -/
theorem read_hasValidTime {text : String} {s : Settings} (h : read text = .ok s) :
    s.HasValidTime := by
  obtain ⟨entries, -, hassign⟩ := bind_eq_ok.mp h
  have hdefaults : HasValidTime {} := fun t ht ↦ absurd ht (by simp)
  by_cases hnodup : (entries.map Prod.fst).Nodup
  · rw [if_pos hnodup] at hassign
    exact foldlM_keeps (fun _ _ _ hs hnext ↦ assign_hasValidTime hs hnext) hdefaults hassign
  · rw [if_neg hnodup] at hassign
    exact absurd hassign (by simp [throw, throwThe, MonadExceptOf.throw])

end DiagramMigrations.Settings
