import Autoresponder.Proofs.Store.Lossless
import Autoresponder.Proofs.Time.Order

/-!
# Asking by time

Due conversations, the last success of a rule and the number of its successes are found by comparing
texts. Where the texts are stored timestamps of the four-digit years, that is what comparing the
instants would find.
-/

namespace Autoresponder

open Store

namespace Store

/-- The stored timestamp of an instant of the four-digit years. -/
def IsStamp (text : String) : Prop := ∃ t : Instant, t.FourDigitYear ∧ text = t.stored

/-- The texts by which conversations and firings are found satisfy `IsStamp`. -/
structure Stamped (s : Store) : Prop where
  resumes : ∀ r ∈ s.states, ∀ text ∈ r.resumeAt, IsStamp text
  firings : ∀ r ∈ s.firings, IsStamp r.time

/-- When a conversation is to be resumed. -/
def StateRow.resume? (r : StateRow) : Option Instant := r.resumeAt.map TimeText.readStored

/-- An active conversation that is to be resumed by `now`, for `dueStates`. -/
def StateRow.isDue (now : Instant) (r : StateRow) : Bool :=
  r.isActive == .int 1 && r.resume?.any fun t => t ≤ now

/-- When a rule has answered a conversation with success: the times of `Store.successes`. -/
def successTimes (s : Store) (rule : Uuid) (conversation : String) : List Instant :=
  (s.successes rule conversation).map fun r => TimeText.readStored r.time

section

variable {s : Store} {rule : Uuid} {conversation : String} {now since t : Instant} {text : String}

/-! ## 1. Stamps -/

-- A stamp is how what it reads as is written.
theorem IsStamp.read (h : IsStamp text) :
    (TimeText.readStored text).FourDigitYear ∧ text = (TimeText.readStored text).stored := by
  obtain ⟨t, hyear, rfl⟩ := h
  rw [Instant.readStored_stored hyear]
  exact ⟨hyear, rfl⟩

/-- Comparing a text that `IsStamp` with a timestamp is comparing instants. -/
theorem IsStamp.le_iff (h : IsStamp text) (ht : (t.date 0).year ≤ 9999) :
    (text ≤ t.stored ↔ TimeText.readStored text ≤ t) ∧
      (t.stored ≤ text ↔ t ≤ TimeText.readStored text) := by
  obtain ⟨hyear, htext⟩ := h.read
  obtain ⟨hle, hge⟩ := Instant.stored_le_stored_iff_of_year_le ht hyear
  rw [← htext] at hle hge
  exact ⟨hge, hle⟩

theorem IsStamp.le_iff_le {text' : String} (h : IsStamp text) (h' : IsStamp text') :
    text ≤ text' ↔ TimeText.readStored text ≤ TimeText.readStored text' := by
  rw [← (h.le_iff h'.read.1.2).1, ← h'.read.2]

/-! ## 2. Due conversations -/

theorem readable_of_forall {ρ α : Type} {read : ρ → Except StoreError α} {rows : List ρ}
    (h : ∀ r ∈ rows, ∃ a, read r = .ok a) : (readable read rows).map .ok = rows.map read := by
  induction rows with
  | nil => rfl
  | cons r rows ih =>
    rw [List.forall_mem_cons] at h
    obtain ⟨⟨a, hread⟩, hrows⟩ := h
    rw [readable_cons hread, List.map_cons, List.map_cons, hread, ih hrows]

/-- Where the store is `Stamped`, `dueStates` are the conversations that are due, the longest due
first. -/
theorem Stamped.exists_due (hs : s.Stamped) (hnow : (now.date 0).year ≤ 9999) :
    ∃ rows : List StateRow, rows.Perm (s.states.filter (·.isDue now)) ∧
      rows.Pairwise (fun r r' => ∀ t ∈ r.resume?, ∀ t' ∈ r'.resume?, t ≤ t') ∧
      s.dueStates now = readable StateRow.read rows := by
  refine ⟨(s.states.filter (·.isDue now)).mergeSort fun a b =>
    a.resumeAt.getD "" ≤ b.resumeAt.getD "", List.mergeSort_perm _ _, ?_, ?_⟩
  · refine (List.pairwise_mergeSort ?_ ?_ _).imp_of_mem ?_
    · intro a b c hab hbc
      exact decide_eq_true ((of_decide_eq_true hab).trans (of_decide_eq_true hbc))
    · intro a b
      simpa using le_total (a.resumeAt.getD "") (b.resumeAt.getD "")
    · -- The texts by which the rows are sorted are stamps.
      intro r r' hr hr' hle t ht t' ht'
      obtain ⟨text, htext, rfl⟩ := Option.map_eq_some_iff.mp ht
      obtain ⟨text', htext', rfl⟩ := Option.map_eq_some_iff.mp ht'
      have hstamp := hs.resumes r (List.mem_of_mem_filter (List.mem_mergeSort.mp hr)) text htext
      have hstamp' := hs.resumes r' (List.mem_of_mem_filter (List.mem_mergeSort.mp hr')) text' htext'
      rw [← hstamp.le_iff_le hstamp']
      simpa [htext, htext'] using hle
  · unfold dueStates
    dsimp only
    congr 2
    refine List.filter_congr fun r hr => ?_
    rw [StateRow.isDue, StateRow.resume?]
    cases hresume : r.resumeAt with
    | none => rfl
    | some text =>
      simp only [Option.map_some, Option.any_some, ((hs.resumes r hr text hresume).le_iff hnow).1]

/-! ## 3. Successes -/

theorem latest?_eq_max? (texts : List String) : latest? texts = texts.max? := by
  cases texts with
  | nil => rfl
  | cons first rest =>
    have hmax : (fun a b : String => if a < b then b else a) = max :=
      funext₂ fun a b => (max_def_lt a b).symm
    rw [latest?, hmax, List.max?_cons']

-- Only the log tells.
theorem successes_congr {s' : Store} (h : s'.firings = s.firings) :
    s'.successes rule conversation = s.successes rule conversation := by
  rw [successes, successes, h]

-- The times of successes, and their texts.
theorem fourDigitYear_of_mem_successTimes
    (hs : ∀ r ∈ s.successes rule conversation, IsStamp r.time)
    (ht : t ∈ s.successTimes rule conversation) : t.FourDigitYear := by
  obtain ⟨row, hrow, rfl⟩ := List.mem_map.mp ht
  exact (hs row hrow).read.1

theorem map_stored_successTimes (hs : ∀ r ∈ s.successes rule conversation, IsStamp r.time) :
    (s.successes rule conversation).map (·.time) =
      (s.successTimes rule conversation).map Instant.stored := by
  rw [successTimes, List.map_map]
  exact List.map_congr_left fun row hrow => (hs row hrow).read.2

/-- By `lastFiring` the last success is the latest of `successTimes`. -/
theorem lastFiring_of_successes (hs : ∀ r ∈ s.successes rule conversation, IsStamp r.time) :
    (s.lastFiring rule conversation = none ∧ s.successTimes rule conversation = []) ∨
      ∃ last ∈ s.successTimes rule conversation, s.lastFiring rule conversation = some last ∧
        ∀ t ∈ s.successTimes rule conversation, t ≤ last := by
  unfold Store.lastFiring
  rw [map_stored_successTimes hs, latest?_eq_max?]
  cases hmax : ((s.successTimes rule conversation).map Instant.stored).max? with
  | none => exact .inl ⟨rfl, List.map_eq_nil_iff.mp (List.max?_eq_none_iff.mp hmax)⟩
  | some text =>
    obtain ⟨hmem, hgreatest⟩ := List.max?_eq_some_iff.mp hmax
    obtain ⟨last, hlast, rfl⟩ := List.mem_map.mp hmem
    have hyear := fourDigitYear_of_mem_successTimes hs hlast
    refine .inr ⟨last, hlast, congrArg some (Instant.readStored_stored hyear), fun t ht => ?_⟩
    exact (Instant.stored_le_stored_iff (fourDigitYear_of_mem_successTimes hs ht) hyear).mp
      (hgreatest _ (List.mem_map_of_mem ht))

theorem lastFiring_of_stamps (hs : ∀ r ∈ s.firings, IsStamp r.time) (rule : Uuid)
    (conversation : String) :
    (s.lastFiring rule conversation = none ∧ s.successTimes rule conversation = []) ∨
      ∃ last ∈ s.successTimes rule conversation, s.lastFiring rule conversation = some last ∧
        ∀ t ∈ s.successTimes rule conversation, t ≤ last :=
  lastFiring_of_successes fun r hr => hs r (List.mem_of_mem_filter hr)

theorem lastFiring_eq_some_iff (hs : ∀ r ∈ s.firings, IsStamp r.time) {last : Instant} :
    s.lastFiring rule conversation = some last ↔ last ∈ s.successTimes rule conversation ∧
      ∀ t ∈ s.successTimes rule conversation, t ≤ last := by
  rcases lastFiring_of_stamps hs rule conversation with
    ⟨hlast, hnone⟩ | ⟨latest, hmem, hlast, hlatest⟩
  · simp [hlast, hnone]
  · rw [hlast, Option.some.injEq]
    constructor
    · rintro rfl
      exact ⟨hmem, hlatest⟩
    · rintro ⟨hmem', hlatest'⟩
      exact Instant.le_antisymm (hlatest' _ hmem) (hlatest _ hmem')

theorem lastFiring_eq_none_iff : s.lastFiring rule conversation = none ↔
    s.successTimes rule conversation = [] := by
  rw [lastFiring, latest?_eq_max?, Option.map_eq_none_iff, List.max?_eq_none_iff,
    List.map_eq_nil_iff, successTimes, List.map_eq_nil_iff]

/-- The successes in `countFirings` are those that are not before `since`. -/
theorem countFirings_of_stamps (hs : ∀ r ∈ s.firings, IsStamp r.time)
    (hsince : (since.date 0).year ≤ 9999) : s.countFirings rule conversation since =
      (s.successTimes rule conversation).countP fun t => since ≤ t := by
  rw [countFirings, ← List.countP_eq_length_filter, successTimes, List.countP_map]
  refine List.countP_congr fun row hrow => ?_
  simpa using ((hs row (List.mem_of_mem_filter hrow)).le_iff hsince).2

end

end Store

/-! ## 4. What is asked by time -/

/-- What the `stored` timestamps of two instants tell about them. -/
structure Instant.Faithful (a b : Instant) : Prop where
  /-- A timestamp is read as the instant it was written for. -/
  read : TimeText.readStored a.stored = a
  length : (Text.bytes a.stored).length = (Text.bytes b.stored).length
  order : Text.bytes a.stored < Text.bytes b.stored ↔ a < b

/-- What `dueStates`, `lastFiring` and `countFirings` tell by timestamps is what their instants
tell. -/
structure Store.Timely (s : Store) (time : Instant) : Prop where
  /-- The conversations that are due, the longest due first. A row that cannot be read is left out. -/
  due : ∃ rows : List StateRow, rows.Perm (s.states.filter (·.isDue time)) ∧
    rows.Pairwise (fun r r' => ∀ t ∈ r.resume?, ∀ t' ∈ r'.resume?, t ≤ t') ∧
    s.dueStates time = readable StateRow.read rows ∧
    ((∀ r ∈ s.states, r.isDue time = true → ∃ c, r.read = .ok c) →
      (s.dueStates time).map .ok = rows.map StateRow.read)
  /-- The last success is the latest one. -/
  last : ∀ rule conversation last, s.lastFiring rule conversation = some last ↔
    last ∈ s.successTimes rule conversation ∧ ∀ t ∈ s.successTimes rule conversation, t ≤ last
  never : ∀ rule conversation,
    s.lastFiring rule conversation = none ↔ s.successTimes rule conversation = []
  /-- The successes that are counted are those that are not before the time. -/
  count : ∀ rule conversation, s.countFirings rule conversation time =
    (s.successTimes rule conversation).countP fun t => time ≤ t

/-- **Stored timestamps keep instants and their order.** An instant of a `FourDigitYear` is what its
timestamp is read as, timestamps have one length, and their bytes are ordered like the instants,
leap seconds included (`Instant.Faithful`). So what a `Stamped` store tells by comparing them, at
any `time` up to the end of these years, is what the instants tell (`Store.Timely`). -/
theorem stored_times_ordered :
    (∀ a b : Instant, a.FourDigitYear → b.FourDigitYear → a.Faithful b) ∧
      ∀ s : Store, s.Stamped → ∀ time : Instant, (time.date 0).year ≤ 9999 → s.Timely time := by
  refine ⟨fun a b ha hb => ⟨Instant.readStored_stored ha, ?_, Instant.bytes_stored_lt_iff ha hb⟩,
    fun s hs time htime => ⟨?_, fun _ _ _ => lastFiring_eq_some_iff hs.firings,
      fun _ _ => lastFiring_eq_none_iff, fun _ _ => countFirings_of_stamps hs.firings htime⟩⟩
  · rw [Instant.length_bytes_stored ha, Instant.length_bytes_stored hb]
  · obtain ⟨rows, hperm, hsorted, hrows⟩ := hs.exists_due htime
    refine ⟨rows, hperm, hsorted, hrows, fun hread => ?_⟩
    rw [hrows]
    refine readable_of_forall fun r hr => ?_
    obtain ⟨hmem, hdue⟩ := List.mem_filter.mp (hperm.mem_iff.mp hr)
    exact hread r hmem hdue

/-- The leap second at the end of 2016. -/
def Instant.leap : Instant := ⟨1483228799, 1500000000, .inr (by decide)⟩

/-- The price was told in the second `Instant.leap` and in the second before, and somebody waited
for it. -/
def Store.overLeap : Store :=
  { firings := [.ofFiring { Firing.priced with time := .leap },
      .ofFiring { Firing.priced with id := .ofNat 5, time := .ofSeconds 1483228799 }]
    states := [.ofConversation { Conversation.chosen with resumeAt := some .leap }] }

/-- In the second `Instant.leap` who waited for it is due, and the second before has passed. -/
theorem stored_times_ordered_leap :
    (Instant.ofSeconds 1483228799).FourDigitYear ∧ Instant.leap.FourDigitYear ∧
      Instant.ofSeconds 1483228799 < .leap ∧
      (Instant.ofSeconds 1483228799).Faithful .leap ∧
      Store.overLeap.Stamped ∧ (Instant.leap.date 0).year ≤ 9999 ∧
      Store.overLeap.Timely .leap ∧
      Store.overLeap.lastFiring Rule.price.id "chat" = some .leap ∧
      Store.overLeap.countFirings Rule.price.id "chat" .leap = 1 ∧
      Store.overLeap.dueStates .leap = [{ Conversation.chosen with resumeAt := some .leap }] := by
  have hbefore : (Instant.ofSeconds 1483228799).FourDigitYear := by decide +kernel
  have hleap : Instant.leap.FourDigitYear := by decide +kernel
  have hstamped : Store.overLeap.Stamped := by
    constructor
    · intro r hr text htext
      rw [List.mem_singleton.mp hr] at htext
      exact ⟨.leap, hleap, (Option.some.inj htext).symm⟩
    · intro r hr
      rcases List.mem_pair.mp hr with rfl | rfl
      · exact ⟨.leap, hleap, rfl⟩
      · exact ⟨_, hbefore, rfl⟩
  exact ⟨hbefore, hleap, by decide, stored_times_ordered.1 _ _ hbefore hleap, hstamped, hleap.2,
    stored_times_ordered.2 _ hstamped _ hleap.2, by decide +kernel, by decide +kernel,
    by decide +kernel⟩

end Autoresponder
