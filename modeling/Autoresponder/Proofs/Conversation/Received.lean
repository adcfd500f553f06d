import Autoresponder.Conversation.Event

/-!
# When events came in

A timestamp that is read, whatever it says, is an instant of the calendar, and so is the time at
which an event came in.
-/

namespace Autoresponder

open Json

/-! ## 1. Timestamps -/

theorem forall_mem_bind {α β : Type} {x : Option α} {k : α → Option β} {P : β → Prop}
    (h : ∀ a, ∀ b ∈ k a, P b) : ∀ b ∈ x.bind k, P b := by
  intro b hb
  obtain ⟨a, -, ha⟩ := Option.mem_bind_iff.mp hb
  exact h a b ha

theorem TimeText.inCalendar_of_instant? {d : Date} {c : ClockTime} {offset : Int} :
    ∀ t ∈ TimeText.instant? d c offset, t.inCalendar = true := by
  refine forall_mem_bind fun time => forall_mem_bind fun instant t ht => ?_
  split at ht
  · rename_i hcalendar
    rwa [← Option.mem_some_iff.mp ht]
  · cases ht

-- Whatever is read as an instant is one of the calendar.
theorem TimeText.inCalendar_of_lenient {text : String} :
    ∀ t ∈ TimeText.lenient text, t.inCalendar = true := by
  refine forall_mem_bind fun date => ?_
  dsimp only
  -- Whatever stands between the date and the time of day, the rest is read in the same way.
  split
  all_goals
    refine forall_mem_bind fun _ => forall_mem_bind fun _ => forall_mem_bind fun _ =>
      forall_mem_bind fun _ => forall_mem_bind fun _ => forall_mem_bind fun _ =>
      forall_mem_bind fun _ => forall_mem_bind fun zone => ?_
    obtain ⟨ahead, rest⟩ := zone
    dsimp only
    split
    · exact forall_mem_bind fun _ => inCalendar_of_instant?
    · simp

/-! ## 2. Records -/

/-- A reader whose results have a property, whatever it reads. -/
def Json.RecordReader.Yields {α : Type} (reader : RecordReader α) (P : α → Prop) : Prop :=
  ∀ source, ∀ r ∈ reader source, P r.1

theorem Json.RecordReader.Yields.bind {α β : Type} {x : RecordReader α}
    {k : α → RecordReader β} {Q : α → Prop} {P : β → Prop} (hx : x.Yields Q)
    (hk : ∀ a, Q a → (k a).Yields P) : Yields (x >>= k) P := by
  intro source r hr
  obtain ⟨⟨a, rest⟩, ha, hrest⟩ := Option.mem_bind_iff.mp hr
  exact hk a (hx source _ ha) rest r hrest

theorem Json.RecordReader.yields_any {α : Type} (reader : RecordReader α) :
    reader.Yields fun _ => True :=
  fun _ _ _ => trivial

theorem Json.RecordReader.yields_field {α : Type} {name : String} {value : Decoder α}
    {P : α → Prop} (h : ∀ j, ∀ a ∈ value j, P a) : (RecordReader.field name value).Yields P := by
  unfold RecordReader.field
  refine .bind (yields_any _) fun found _ => ?_
  split
  · rename_i j
    intro source r hr
    obtain ⟨a, ha, rfl⟩ := Option.map_eq_some_iff.mp (Option.mem_def.mp hr)
    exact h j a ha
  · intro source r hr
    cases hr

theorem Json.RecordReader.Yields.asRecord {α : Type} {reader : RecordReader α} {P : α → Prop}
    (h : reader.Yields P) (j : Json) : ∀ a ∈ asRecord reader j, P a := by
  have hfinish (source : Source) : ∀ a ∈ reader.finish source, P a := by
    intro a ha
    unfold finish at ha
    split at ha
    · rename_i hr
      exact Option.mem_some_iff.mp ha ▸ h source _ hr
    · rename_i hr
      exact Option.mem_some_iff.mp ha ▸ h source _ hr
    · cases ha
  unfold Json.asRecord
  split
  · exact hfinish _
  · exact hfinish _
  · simp

/-- An event that is read was `received` at an instant of the calendar. -/
theorem Event.inCalendar_of_fromJson (j : Json) :
    ∀ e ∈ fromJson j, e.received.inCalendar = true := by
  have hreceived (j : Json) : ∀ t ∈ Instant.fromJson j, t.inCalendar = true :=
    forall_mem_bind fun _ => TimeText.inCalendar_of_lenient
  refine RecordReader.Yields.asRecord ?_ j
  iterate 9 refine .bind (RecordReader.yields_any _) fun _ _ => ?_
  refine .bind (RecordReader.yields_field hreceived) fun received h => ?_
  intro source r hr
  rw [← Option.mem_some_iff.mp hr]
  exact h

end Autoresponder
