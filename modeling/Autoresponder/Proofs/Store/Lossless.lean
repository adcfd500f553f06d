import Autoresponder.Proofs.Store.Configured
import Autoresponder.Proofs.Store.Documents
import Autoresponder.Proofs.Store.Versions

/-!
# Storing without loss

Every column is read by the reverse of what it was written with, and a document may as well be kept
as text. So what is stored is loaded as it was, in every field, but for instants outside of the
four-digit years and for numbers beyond the greatest integer of a column: a column holds a sign, and
a number that leaves no room for one reads as zero.
-/

namespace Autoresponder

/-! ## 1. Numbers in columns -/

namespace Store.IntCell

/-- What a number without a sign reads as (`IntCell.asUInt64`) after it was stored. -/
def held (n : UInt64) : UInt64 := if (n.toNat : Int) ≤ greatest then n else 0

theorem asUInt64_ofUInt64 (n : UInt64) : (ofUInt64 n).asUInt64 = held n := by
  have hlt : n.toNat < 2 ^ 64 := n.toNat_lt
  have hgreatest : greatest = 2 ^ 63 - 1 := rfl
  have hsize : UInt64.size = 2 ^ 64 := rfl
  rw [asUInt64, ofUInt64, value_int, held, hsize]
  split
  · rw [Int.bmod_eq_of_le (by omega) (by omega), Int.toNat_natCast, UInt64.ofNat_toNat]
  · -- Without room for the sign the bits are those of a negative number.
    have hneg : ((n.toNat : Int).bmod (2 ^ 64)).toNat = 0 := by
      rw [Int.toNat_eq_zero, Int.bmod_def]
      omega
    rw [hneg]
    rfl

theorem asUInt32_toNat (n : UInt32) : (int n.toNat).asUInt32 = n := by
  have hlt : n.toNat < 2 ^ 32 := n.toNat_lt
  have hsize : UInt32.size = 2 ^ 32 := rfl
  rw [asUInt32, value_int, Int.toNat_natCast, hsize, Nat.min_eq_left (by omega),
    UInt32.ofNat_toNat]

end Store.IntCell

/-! ## 2. What reads back -/

def Flow.instants (f : Flow) : List Instant := f.lastTriggered.toList ++ [f.created, f.updated]

def Flow.kept (f : Flow) : Flow :=
  { f with triggerCount := Store.IntCell.held f.triggerCount,
           lastTriggered := f.lastTriggered.map Instant.kept, created := f.created.kept,
           updated := f.updated.kept }

def Rule.instants (r : Rule) : List Instant := r.lastTriggered.toList ++ [r.created, r.updated]

def Rule.kept (r : Rule) : Rule :=
  { r with cooldown := Store.IntCell.held r.cooldown,
           triggerCount := Store.IntCell.held r.triggerCount,
           lastTriggered := r.lastTriggered.map Instant.kept, created := r.created.kept,
           updated := r.updated.kept }

def Conversation.instants (c : Conversation) : List Instant :=
  c.lastInbound.toList ++ c.resumeAt.toList ++ c.completed.toList ++ [c.created, c.updated]

-- Flows and rules have the same instants.
theorem Instant.kept_of_stamps {last : Option Instant} {created updated : Instant}
    (h : ∀ t ∈ last.toList ++ [created, updated], t.FourDigitYear) :
    last.map Instant.kept = last ∧ created.kept = created ∧ updated.kept = updated := by
  simp only [List.mem_append, Option.mem_toList, List.mem_cons, List.not_mem_nil, or_false, or_imp,
    forall_and, forall_eq] at h
  obtain ⟨hlast, hcreated, hupdated⟩ := h
  exact ⟨Conversation.map_kept_of_inYears hlast, kept_of_fourDigitYear hcreated,
    kept_of_fourDigitYear hupdated⟩

theorem Flow.kept_of_fourDigitYear {f : Flow} (h : ∀ t ∈ f.instants, t.FourDigitYear) :
    f.kept = { f with triggerCount := Store.IntCell.held f.triggerCount } := by
  obtain ⟨hlast, hcreated, hupdated⟩ := Instant.kept_of_stamps h
  rw [kept, hlast, hcreated, hupdated]

theorem Rule.kept_of_fourDigitYear {r : Rule} (h : ∀ t ∈ r.instants, t.FourDigitYear) :
    r.kept = { r with cooldown := Store.IntCell.held r.cooldown,
                      triggerCount := Store.IntCell.held r.triggerCount } := by
  obtain ⟨hlast, hcreated, hupdated⟩ := Instant.kept_of_stamps h
  rw [kept, hlast, hcreated, hupdated]

theorem Conversation.kept_of_fourDigitYear {c : Conversation}
    (h : ∀ t ∈ c.instants, t.FourDigitYear) : c.kept = c := by
  simp only [instants, List.mem_append, Option.mem_toList, List.mem_cons, List.not_mem_nil,
    or_false, or_imp, forall_and, forall_eq] at h
  obtain ⟨⟨⟨hlast, hresume⟩, hcompleted⟩, hcreated, hupdated⟩ := h
  exact kept_eq_iff.mpr ⟨map_kept_of_inYears hlast, map_kept_of_inYears hresume,
    Instant.kept_of_fourDigitYear hcreated, Instant.kept_of_fourDigitYear hupdated,
    map_kept_of_inYears hcompleted⟩

namespace Store

theorem readTrigger_tag (k : TriggerKind) : readTrigger k.tag = .ok k := by
  rw [readTrigger, TriggerKind.ofStored?_tag]

theorem readDocument_of_eq_some {α : Type} {column : Nat} {decode : Json.Decoder α} {j : Json}
    {a : α} (h : decode j = some a) : readDocument column decode (some j) = .ok a := by
  rw [readDocument, Option.bind_some, h]

theorem readDocument_settled {c : TriggerConfig} (h : c.threshold = none) (column : Nat) :
    readDocument column TriggerConfig.fromJson (some c.settled.toJson) = .ok c := by
  rw [TriggerConfig.settled_of_threshold h]
  exact readDocument_of_eq_some (TriggerConfig.fromJson_toJson h)

theorem FlowRow.read_ofFlow {f : Flow} (h : f.config.threshold = none) :
    (ofFlow f).read = .ok f.kept := by
  have hstatus : readStatus f.status.tag = .ok f.status := by
    rw [readStatus, FlowStatus.ofTag?_tag]
  have hnodes : readDocument 6 (Json.asList Node.fromJson) (some (.arr (f.nodes.map Node.toJson))) =
      .ok f.nodes :=
    readDocument_of_eq_some (Json.asList_map Node.fromJson_toJson f.nodes)
  have hedges : readDocument 7 (Json.asList Edge.fromJson) (some (.arr (f.edges.map Edge.toJson))) =
      .ok f.edges :=
    readDocument_of_eq_some (Json.asList_map Edge.fromJson_toJson f.edges)
  unfold read ofFlow
  dsimp only
  rw [readTrigger_tag, hstatus, readUuid_toString, readDocument_settled h, hnodes, hedges]
  simp only [bind, Except.bind, pure, Except.pure, StateRow.map_readStored, Flow.kept,
    Instant.kept_def, IntCell.asUInt64_ofUInt64, IntCell.value_int]

theorem RuleRow.read_ofRule {r : Rule} (h : r.config.threshold = none) :
    (ofRule r).read = .ok r.kept := by
  have hresponse : (ofRule r).readResponse = .ok r.response := by
    have hdocument : readDocument 7 (fun j => some j.canonical) (some r.response.toConfig) =
        .ok r.response.toConfig.canonical := readDocument_of_eq_some rfl
    unfold readResponse ofRule
    dsimp only
    rw [hdocument]
    simp only [bind, Except.bind, Response.ofStored_toConfig]
  unfold read
  rw [hresponse]
  unfold ofRule
  dsimp only
  rw [readTrigger_tag, readUuid_toString, readDocument_settled h]
  simp only [bind, Except.bind, pure, Except.pure, StateRow.map_readStored, Rule.kept,
    Instant.kept_def, IntCell.asUInt64_ofUInt64, IntCell.asUInt32_toNat, IntCell.isSet_ofBool,
    IntCell.value_int]

theorem FiringRow.read_ofFiring (e : Firing) :
    (ofFiring e).read = .ok { e with time := e.time.kept } := by
  unfold read ofFiring
  dsimp only
  rw [readUuid_toString, readUuid_toString]
  simp only [bind, Except.bind, pure, Except.pure, IntCell.isSet_ofBool, Instant.kept_def]

/-! ## 3. Documents kept as text -/

/-- A document after it was written as text and parsed. -/
def reparsed (document : Option Json) : Option Json := document.bind fun j => Json.parse j.compact

theorem reparsed_of_fits {n : Nat} {j : Json} (h : Json.Fits n j) (hdepth : n = Json.depthLimit) :
    reparsed (some j) = some j :=
  Json.parse_compact (hdepth ▸ h)

theorem reparsed_settled {c : TriggerConfig} (h : c.threshold = none) :
    reparsed (some c.settled.toJson) = some c.settled.toJson := by
  rw [TriggerConfig.settled_of_threshold h]
  exact reparsed_of_fits (TriggerConfig.fits h 125) rfl

def FlowRow.reparsed (r : FlowRow) : FlowRow :=
  { r with config := Store.reparsed r.config, nodes := Store.reparsed r.nodes,
           edges := Store.reparsed r.edges }

theorem FlowRow.reparsed_ofFlow {f : Flow} (h : f.config.threshold = none) :
    (ofFlow f).reparsed = ofFlow f := by
  have hnodes : Store.reparsed (some (.arr (f.nodes.map Node.toJson))) =
      some (.arr (f.nodes.map Node.toJson)) :=
    reparsed_of_fits (Json.fits_map (fun x => Node.fits x 123) f.nodes) rfl
  have hedges : Store.reparsed (some (.arr (f.edges.map Edge.toJson))) =
      some (.arr (f.edges.map Edge.toJson)) :=
    reparsed_of_fits (Json.fits_map (fun e => Edge.fits e 125) f.edges) rfl
  unfold reparsed ofFlow
  dsimp only
  rw [reparsed_settled h, hnodes, hedges]

def RuleRow.reparsed (r : RuleRow) : RuleRow :=
  { r with config := Store.reparsed r.config, response := Store.reparsed r.response }

theorem RuleRow.reparsed_ofRule {r : Rule} (h : r.config.threshold = none) :
    (ofRule r).reparsed = ofRule r := by
  have hresponse : Store.reparsed (some r.response.toConfig) = some r.response.toConfig :=
    reparsed_of_fits (Response.fits r.response 124) rfl
  unfold reparsed ofRule
  dsimp only
  rw [reparsed_settled h, hresponse]

def StateRow.reparsed (r : StateRow) : StateRow :=
  { r with collected := Store.reparsed r.collected }

theorem StateRow.reparsed_ofConversation (c : Conversation) :
    (ofConversation c).reparsed = ofConversation c := by
  have hcollected : Store.reparsed (some c.collected.toJson) = some c.collected.toJson :=
    reparsed_of_fits (Variables.fits c.collected 126) rfl
  unfold reparsed ofConversation
  dsimp only
  rw [hcollected]

end Store

/-- The store after all documents in it were kept as text. -/
def Store.asText (s : Store) : Store :=
  { s with flows := s.flows.map FlowRow.reparsed, rules := s.rules.map RuleRow.reparsed,
           states := s.states.map StateRow.reparsed }

/-- What `load` makes of a store, whether it keeps documents or their text. -/
def Store.Loads {α : Type} (s : Store) (load : Store → α) (a : α) : Prop :=
  load s = a ∧ load s.asText = a

namespace Store

/-! ## 4. What is loaded after it was stored -/

-- A row that is put behind rows of other identifiers is the first one of its identifier.
theorem readFirst_append {α β : Type} {read : α → Except StoreError β} {key : α → String}
    {rows : List α} {new : α} {id : String} {b : β} (hnew : ∀ r ∈ rows, key r ≠ id)
    (hid : key new = id) (hread : read new = .ok b) :
    readFirst read ((rows ++ [new]).find? fun r => key r == id) = .ok (some b) := by
  have hnone : rows.find? (fun r => key r == id) = none := by
    rw [List.find?_eq_none]
    intro r hr
    rw [beq_iff_eq]
    exact hnew r hr
  rw [List.find?_append, hnone, Option.none_or, List.find?_singleton,
    if_pos (beq_iff_eq.mpr hid), readFirst, hread]
  rfl

variable {s s' : Store}

theorem flow?_putFlow {f : Flow} (hnew : ∀ r ∈ s.flows, r.id ≠ toString f.id)
    (h : f.config.threshold = none) :
    (s.putFlow f).Loads (·.flow? f.id) (.ok (some f.kept)) := by
  have hunused : ¬ s.flows.any (·.id == (FlowRow.ofFlow f).id) = true := by
    simpa [FlowRow.ofFlow] using hnew
  have htext : (s.flows ++ [FlowRow.ofFlow f]).map FlowRow.reparsed =
      s.flows.map FlowRow.reparsed ++ [.ofFlow f] := by
    rw [List.map_append, List.map_singleton, FlowRow.reparsed_ofFlow h]
  rw [putFlow, if_neg hunused]
  refine ⟨readFirst_append hnew rfl (FlowRow.read_ofFlow h), ?_⟩
  unfold flow? asText
  rw [htext]
  exact readFirst_append (List.forall_mem_map.mpr hnew) rfl (FlowRow.read_ofFlow h)

theorem rule?_putRule {r : Rule} (hnew : ∀ row ∈ s.rules, row.id ≠ toString r.id)
    (h : r.config.threshold = none) :
    (s.putRule r).Loads (·.rule? r.id) (.ok (some r.kept)) := by
  have hunused : ¬ s.rules.any (·.id == (RuleRow.ofRule r).id) = true := by
    simpa [RuleRow.ofRule] using hnew
  have htext : (s.rules ++ [RuleRow.ofRule r]).map RuleRow.reparsed =
      s.rules.map RuleRow.reparsed ++ [.ofRule r] := by
    rw [List.map_append, List.map_singleton, RuleRow.reparsed_ofRule h]
  rw [putRule, if_neg hunused]
  refine ⟨readFirst_append hnew rfl (RuleRow.read_ofRule h), ?_⟩
  unfold rule? asText
  rw [htext]
  exact readFirst_append (List.forall_mem_map.mpr hnew) rfl (RuleRow.read_ofRule h)

theorem state?_createState {c : Conversation} (h : s.createState c = .ok s') :
    s'.Loads (·.state? c.id) (.ok (some c.kept)) := by
  have hrow : s'.states.find? (·.id == toString c.id) = some (.ofConversation c) := by
    rw [find?_createState h, if_pos rfl]
  have hread : readFirst StateRow.read (some (.ofConversation c)) = .ok (some c.kept) :=
    congrArg (Except.map some) (StateRow.read_ofConversation c (.int c.version))
  have htext : s'.asText.states.find? (·.id == toString c.id) = some (.ofConversation c) := by
    have hid : (fun r : StateRow => r.id == toString c.id) ∘ StateRow.reparsed =
        fun r => r.id == toString c.id := rfl
    rw [asText, List.find?_map, hid, hrow, Option.map_some, StateRow.reparsed_ofConversation]
  exact ⟨(congrArg (readFirst StateRow.read) hrow).trans hread,
    (congrArg (readFirst StateRow.read) htext).trans hread⟩

-- Rows in another order are the same readable ones.
theorem readable_perm {α β : Type} {read : α → Except StoreError β} {rows rows' : List α}
    (h : rows.Perm rows') : (readable read rows).Perm (readable read rows') :=
  h.filterMap _

theorem readable_cons {α β : Type} {read : α → Except StoreError β} {r : α} {b : β}
    (h : read r = .ok b) (rows : List α) : readable read (r :: rows) = b :: readable read rows := by
  rw [readable, List.filterMap_cons, h]
  rfl

theorem ruleFirings_logFiring {e : Firing} (h : s.logFiring e = .ok s') :
    (s'.ruleFirings e.rule).Perm ({ e with time := e.time.kept } :: s.ruleFirings e.rule) := by
  obtain ⟨-, -, rfl⟩ := logged_of_logFiring h
  have hrule : ((FiringRow.ofFiring e).rule == toString e.rule) = true := beq_self_eq_true _
  unfold ruleFirings
  rw [List.filter_append, List.filter_singleton, hrule]
  refine (readable_perm (List.mergeSort_perm _ _)).trans ?_
  refine (readable_perm (List.perm_append_singleton _ _)).trans ?_
  rw [readable_cons (FiringRow.read_ofFiring e)]
  exact (readable_perm (List.mergeSort_perm _ _).symm).cons _

end Store

/-- **What is stored is loaded as it was.** A flow or a rule of a new identifier, a conversation
that begins and a firing that is logged are loaded as they were stored, in every field, if their
`instants` have a `FourDigitYear` and no threshold is set. The one exception is made by numbers
without a sign that have a column of their own, the count of a flow, the count and the cooldown of a
rule: they come back as `IntCell.held`, which is what they were as long as they leave room for a
sign, and zero otherwise. -/
theorem Store.loads_of_stored (s : Store) :
    (∀ f : Flow, (∀ t ∈ f.instants, t.FourDigitYear) → f.config.threshold = none →
      (∀ r ∈ s.flows, r.id ≠ toString f.id) →
      (s.putFlow f).Loads (·.flow? f.id)
        (.ok (some { f with triggerCount := IntCell.held f.triggerCount }))) ∧
    (∀ r : Rule, (∀ t ∈ r.instants, t.FourDigitYear) → r.config.threshold = none →
      (∀ row ∈ s.rules, row.id ≠ toString r.id) →
      (s.putRule r).Loads (·.rule? r.id)
        (.ok (some { r with cooldown := IntCell.held r.cooldown,
                            triggerCount := IntCell.held r.triggerCount }))) ∧
    (∀ (c : Conversation) (s' : Store), (∀ t ∈ c.instants, t.FourDigitYear) →
      s.createState c = .ok s' → s'.Loads (·.state? c.id) (.ok (some c))) ∧
    (∀ (e : Firing) (s' : Store), e.time.FourDigitYear → s.logFiring e = .ok s' →
      (s'.ruleFirings e.rule).Perm (e :: s.ruleFirings e.rule)) := by
  refine ⟨fun f hyears hthreshold hnew => ?_, fun r hyears hthreshold hnew => ?_,
    fun c s' hyears h => ?_, fun e s' hyear h => ?_⟩
  · rw [← Flow.kept_of_fourDigitYear hyears]
    exact flow?_putFlow hnew hthreshold
  · rw [← Rule.kept_of_fourDigitYear hyears]
    exact rule?_putRule hnew hthreshold
  · have hloaded := state?_createState h
    rwa [Conversation.kept_of_fourDigitYear hyears] at hloaded
  · have hloaded := ruleFirings_logFiring h
    rwa [Instant.kept_of_fourDigitYear hyear] at hloaded

/-- Offers a menu, with a long pause behind it (`loads_of_stored_menu`). -/
def Flow.menu : Flow :=
  { Flow.new (.ofNat 1) "shop" "main" "menu" .keyword (.ofSeconds 0) with
    config := { keywords := ["the \"menu\""], command := some "/menu" }
    nodes := [⟨"start", .trigger⟩, ⟨"menu", .buttons "Which one?" [⟨"a", "A"⟩] (some "choice")⟩,
      ⟨"pause", .delay 18446744073709551615⟩, ⟨"done", .finish (some "Bye\n")⟩]
    edges := [⟨"start", "menu", none⟩, ⟨"menu", "pause", some "a"⟩, ⟨"pause", "done", none⟩]
    triggerCount := 7 }

/-- Names a price three times a day at most, and after that not for longer than a column can say. -/
def Rule.price : Rule :=
  { Rule.new (.ofNat 2) "shop" "main" "price" .keyword (.text "It costs 10") (.ofSeconds 0) with
    cooldown := 9223372036854775808
    dailyCap := 3 }

/-- Somebody has chosen from `Flow.menu`. -/
def Conversation.chosen : Conversation :=
  { id := .ofNat 3, workspace := "shop", account := "main", phone := "555", flow := Flow.menu.id,
    node := "pause", lastButton := some "a", collected := .ofList [("choice", "A")],
    lastInbound := some (.ofSeconds 30), resumeAt := some (.ofSeconds 3630), isActive := true,
    version := 3, created := .ofSeconds 20, updated := .ofSeconds 30, completed := none }

/-- Somebody was told the price by `Rule.price`. -/
def Firing.priced : Firing :=
  { id := .ofNat 4, rule := Rule.price.id, conversation := "chat", messageId := none,
    text := "price?", keyword := some "price", success := true, time := .ofSeconds 60 }

/-- `Flow.menu` is loaded as it was, and so is who has chosen from it and who was told the price.
`Rule.price` itself comes without its cooldown. -/
theorem loads_of_stored_menu :
    (({} : Store).putFlow .menu).Loads (·.flow? Flow.menu.id) (.ok (some .menu)) ∧
    (({} : Store).putRule .price).Loads (·.rule? Rule.price.id)
      (.ok (some { Rule.price with cooldown := 0 })) ∧
    (∃ s', ({} : Store).createState .chosen = .ok s' ∧
      s'.Loads (·.state? Conversation.chosen.id) (.ok (some .chosen))) ∧
    (∃ s', (({} : Store).putRule .price).logFiring .priced = .ok s' ∧
      (s'.ruleFirings Rule.price.id).Perm [.priced]) := by
  have hseven : Store.IntCell.held Flow.menu.triggerCount = 7 := by decide
  have hbeyond : Store.IntCell.held Rule.price.cooldown = 0 := by decide
  have hnone : Store.IntCell.held Rule.price.triggerCount = 0 := by decide
  have hcreated : (({} : Store).createState .chosen).toOption.isSome = true := by decide +kernel
  have hlogged : ((({} : Store).putRule .price).logFiring .priced).toOption.isSome = true := by
    decide +kernel
  have hsilent : (({} : Store).putRule .price).ruleFirings Firing.priced.rule = [] := by
    decide +kernel
  have hflow := (Store.loads_of_stored {}).1 .menu (by decide +kernel) rfl
    fun _ hr => absurd hr List.not_mem_nil
  have hrule := (Store.loads_of_stored {}).2.1 .price (by decide +kernel) rfl
    fun _ hr => absurd hr List.not_mem_nil
  rw [hseven] at hflow
  rw [hbeyond, hnone] at hrule
  refine ⟨hflow, hrule, ?_, ?_⟩
  · cases h : ({} : Store).createState .chosen with
    | error e => rw [h] at hcreated; cases hcreated
    | ok s' => exact ⟨s', rfl, (Store.loads_of_stored {}).2.2.1 .chosen s' (by decide +kernel) h⟩
  · cases h : (({} : Store).putRule .price).logFiring .priced with
    | error e => rw [h] at hlogged; cases hlogged
    | ok s' =>
      have hfiring := (Store.loads_of_stored _).2.2.2 .priced s' (by decide +kernel) h
      rw [hsilent] at hfiring
      exact ⟨s', rfl, hfiring⟩

end Autoresponder
