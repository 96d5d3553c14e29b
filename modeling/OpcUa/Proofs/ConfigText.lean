import Mathlib.Data.List.Nodup
import OpcUa.Config.Codec
import OpcUa.Proofs.DurationText
import OpcUa.Proofs.JsonText

/-!
# Configurations read back

A configuration is written as an object that leaves out the optional fields without a value. The
text of the object is read as that object, and each field is found in it or has its default.

* `Json.find?_written`: the fields of an object that leaves some of its fields out.
* `ClientConfig.ofJson?_toJson`: a configuration is read back from its object.
* `ClientConfig.readsBack_toJson`: the object is read back from its text.
* `ClientConfig.reads_as_written`: a configuration is read back from its text, and every duration
  from the way it is spelled.
-/

namespace OpcUa

namespace Json

/-! ## Objects that leave fields out -/

/-- The fields that have a value. -/
def written (table : List (String × Option Json)) : List (String × Json) :=
  table.flatMap fun (name, j) => optionalField name id j

theorem optionalField_map {α : Type} (name : String) (f : α → Json) (a : Option α) :
    optionalField name f a = optionalField name id (a.map f) := by
  cases a <;> rfl

theorem sublist_written (table : List (String × Option Json)) :
    ((written table).map (·.1)).Sublist (table.map (·.1)) := by
  induction table with
  | nil => exact .slnil
  | cons f table ih =>
    obtain ⟨name, _ | j⟩ := f
    · exact ih.cons name
    · exact ih.cons_cons name

theorem mem_written {table : List (String × Option Json)} {name : String} {j : Json}
    (h : (name, j) ∈ written table) : (name, some j) ∈ table := by
  obtain ⟨⟨name', _ | j'⟩, hmem, hj⟩ := List.mem_flatMap.1 h
  · cases hj
  · cases List.mem_singleton.1 hj
    exact hmem

theorem find?_written_of_notMem {table : List (String × Option Json)} {name : String}
    (h : name ∉ table.map (·.1)) : Record.find? ⟨true, written table⟩ name = none := by
  have hnone : (written table).find? (·.1 == name) = none := by
    refine List.find?_eq_none.2 fun f hf hname => h ?_
    rw [← beq_iff_eq.1 hname]
    exact (sublist_written table).subset (List.mem_map_of_mem hf)
  rw [Record.find?, hnone]
  rfl

theorem find?_written_cons {table : List (String × Option Json)} {name' name : String}
    {j : Option Json} (h : name' ≠ name ∨ j = none) :
    Record.find? ⟨true, written ((name', j) :: table)⟩ name =
      Record.find? ⟨true, written table⟩ name := by
  cases j with
  | none => rfl
  | some j =>
    have hne : ¬ (name' == name) = true := by simpa using h
    have hskip : ((name', j) :: written table).find? (·.1 == name) =
        (written table).find? (·.1 == name) := List.find?_cons_of_neg hne
    exact congrArg (Option.map Prod.snd) hskip

/-- A field is found if it is written. -/
theorem find?_written {table : List (String × Option Json)} (hd : (table.map (·.1)).Nodup)
    {name : String} {j : Option Json} (h : (name, j) ∈ table) :
    Record.find? ⟨true, written table⟩ name = j := by
  induction table with
  | nil => cases h
  | cons f table ih =>
    obtain ⟨name', j'⟩ := f
    rw [List.map_cons, List.nodup_cons] at hd
    cases h with
    | head =>
      cases j with
      | none => rw [find?_written_cons (.inr rfl), find?_written_of_notMem hd.1]
      | some j =>
        have hfirst : ((name, j) :: written table).find? (·.1 == name) = some (name, j) :=
          List.find?_cons_of_pos (beq_self_eq_true name)
        exact congrArg (Option.map Prod.snd) hfirst
    | tail _ h =>
      have hname : name ∈ table.map (·.1) := List.mem_map.2 ⟨_, h, rfl⟩
      have hne : name' ≠ name := fun e => hd.1 (e ▸ hname)
      rw [find?_written_cons (.inl hne), ih hd.2 h]

/-! ## Fields -/

theorem listOf_ofList {α : Type} {f : α → Json} {read : Json → Option α}
    (h : ∀ a, read (f a) = some a) (as : List α) : listOf read (.ofList f as) = some as := by
  rw [ofList, listOf]
  induction as with
  | nil => rfl
  | cons a as ih =>
    rw [List.map_cons, readAll, h, ih]
    rfl

theorem asStr?_str (s : String) : asStr? (.str s) = some s := rfl

theorem asNat?_nat {n bound : Nat} (h : n < bound) : asNat? bound (.nat n) = some n := by
  have hrange : (0 : Int) ≤ n ∧ (n : Int) < bound := by omega
  rw [nat, asNat?, if_pos hrange, Int.toNat_natCast]

theorem asUInt32?_ofUInt32 (n : UInt32) : asUInt32? (.ofUInt32 n) = some n := by
  change (asNat? UInt32.size (.nat n.toNat)).map UInt32.ofNat = _
  rw [asNat?_nat n.toNat_lt_size, Option.map_some, UInt32.ofNat_toNat]

theorem asUInt64?_nat (n : UInt64) : asUInt64? (.nat n.toNat) = some n := by
  rw [asUInt64?, asNat?_nat n.toNat_lt_size, Option.map_some, UInt64.ofNat_toNat]

/-- A field that is written. -/
theorem Record.defaulted_of_some {α : Type} {r : Record} {name : String} {j : Json}
    (h : r.find? name = some j) {default a : α} {read : Json → Option α} (hread : read j = some a) :
    r.defaulted name default read = some a := by
  rw [Record.defaulted, h]
  exact hread

/-- An optional text that may be left out. -/
theorem Record.defaulted_nullable {r : Record} {name : String} {s : Option String}
    (h : r.find? name = s.map .str) : r.defaulted name none (nullable asStr?) = some s := by
  rw [Record.defaulted, h]
  cases s <;> rfl

end Json

namespace Duration

theorem ofJson?_toJson (d : Duration) : ofJson? d.toJson = some d := by
  rw [ofJson?, toJson, Json.asStr?_str, Option.bind_some, ofSpelling?_spell]

theorem readsBack_toJson (d : Duration) : d.toJson.ReadsBack := Json.readsBack_str _

end Duration

namespace UserIdentity

theorem ofJson?_toJson (u : UserIdentity) : ofJson? u.toJson = some u := by
  cases u with
  | anonymous => rfl
  | userName username password => rfl

theorem readsBack_toJson (u : UserIdentity) : u.toJson.ReadsBack := by
  cases u with
  | anonymous =>
    refine Json.readsBack_obj (by decide) (List.forall_mem_cons.2 ⟨?_, List.forall_mem_nil _⟩)
    exact Json.readsBack_str _
  | userName username password =>
    have hd : ["type", "username", "password"].Nodup := by decide
    refine Json.readsBack_obj hd ?_
    simp only [List.forall_mem_cons]
    exact ⟨Json.readsBack_str _, Json.readsBack_str _, Json.readsBack_str _, List.forall_mem_nil _⟩

end UserIdentity

namespace ClientConfig

open Json

/-- The fields of a configuration. -/
def table (c : ClientConfig) : List (String × Option Json) :=
  [("application_name", some (.str c.applicationName)),
   ("application_uri", c.applicationUri.map .str), ("product_uri", c.productUri.map .str),
   ("session_name", c.sessionName.map .str), ("session_timeout", some c.sessionTimeout.toJson),
   ("request_timeout", some c.requestTimeout.toJson),
   ("max_response_message_size", some (.ofUInt32 c.maxResponseMessageSize)),
   ("user_identity", some c.userIdentity.toJson), ("locale_ids", some (.ofList .str c.localeIds)),
   ("max_notifications_per_publish", some (.ofUInt32 c.maxNotificationsPerPublish)),
   ("publish_pipeline_depth", some (.ofUInt32 c.publishPipelineDepth)),
   ("publish_failure_backoff", some c.publishFailureBackoff.toJson),
   ("value_channel_capacity", some (.nat c.valueChannelCapacity.toNat))]

theorem toJson_eq (c : ClientConfig) : c.toJson = .obj (written c.table) := by
  rw [toJson, optionalField_map _ _ c.applicationUri, optionalField_map _ _ c.productUri,
    optionalField_map _ _ c.sessionName, List.append_assoc, List.append_assoc, List.append_assoc]
  rfl

theorem nodup_table (c : ClientConfig) : (c.table.map (·.1)).Nodup := by
  change fieldNames.Nodup
  decide

/-- **A configuration is read back from its object.** -/
theorem ofJson?_toJson (c : ClientConfig) : ofJson? c.toJson = some c := by
  have hfind (i : Nat) {name : String} {j : Option Json} (h : c.table[i]? = some (name, j)) :
      Record.find? ⟨true, written c.table⟩ name = j :=
    find?_written c.nodup_table (List.mem_of_getElem? h)
  rw [toJson_eq, ofJson?, record?]
  dsimp only [Option.bind_eq_bind, Option.bind_some]
  rw [Record.defaulted_of_some (hfind 0 rfl) (asStr?_str _),
    Record.defaulted_nullable (hfind 1 rfl), Record.defaulted_nullable (hfind 2 rfl),
    Record.defaulted_nullable (hfind 3 rfl),
    Record.defaulted_of_some (hfind 4 rfl) c.sessionTimeout.ofJson?_toJson,
    Record.defaulted_of_some (hfind 5 rfl) c.requestTimeout.ofJson?_toJson,
    Record.defaulted_of_some (hfind 6 rfl) (asUInt32?_ofUInt32 _),
    Record.defaulted_of_some (hfind 7 rfl) c.userIdentity.ofJson?_toJson,
    Record.defaulted_of_some (hfind 8 rfl) (listOf_ofList asStr?_str c.localeIds),
    Record.defaulted_of_some (hfind 9 rfl) (asUInt32?_ofUInt32 _),
    Record.defaulted_of_some (hfind 10 rfl) (asUInt32?_ofUInt32 _),
    Record.defaulted_of_some (hfind 11 rfl) c.publishFailureBackoff.ofJson?_toJson,
    Record.defaulted_of_some (hfind 12 rfl) (asUInt64?_nat _)]
  rfl

/-- The values of the fields are strings, words, and a list or an object of them. -/
theorem readsBack_of_mem (c : ClientConfig) : ∀ f ∈ c.table, ∀ j ∈ f.2, ReadsBack j := by
  have hfield {j : Json} (h : ReadsBack j) : ∀ j' ∈ some j, ReadsBack j' := by
    rintro _ ⟨⟩
    exact h
  have htext (s : Option String) : ∀ j ∈ s.map .str, ReadsBack j := by
    intro j hj
    obtain ⟨s, -, rfl⟩ := Option.map_eq_some_iff.1 hj
    exact readsBack_str s
  have hword (n : UInt32) : ReadsBack (.ofUInt32 n) :=
    readsBack_nat (Nat.lt_trans n.toNat_lt_size (by decide))
  have hlocales : ReadsBack (.ofList .str c.localeIds) := by
    refine readsBack_arr fun j hj => ?_
    obtain ⟨s, -, rfl⟩ := List.mem_map.1 hj
    exact readsBack_str s
  simp only [table, List.forall_mem_cons]
  exact ⟨hfield (readsBack_str _), htext _, htext _, htext _,
    hfield c.sessionTimeout.readsBack_toJson, hfield c.requestTimeout.readsBack_toJson,
    hfield (hword _), hfield c.userIdentity.readsBack_toJson, hfield hlocales, hfield (hword _),
    hfield (hword _), hfield c.publishFailureBackoff.readsBack_toJson,
    hfield (readsBack_nat c.valueChannelCapacity.toNat_lt_size), List.forall_mem_nil _⟩

theorem readsBack_toJson (c : ClientConfig) : c.toJson.ReadsBack := by
  rw [toJson_eq]
  refine readsBack_obj (c.nodup_table.sublist (sublist_written c.table)) fun f hf => ?_
  exact c.readsBack_of_mem _ (mem_written hf) f.2 rfl

/-- **Reading the text of a configuration gives that configuration**, and reading a spelled duration
gives that duration. -/
theorem reads_as_written :
    (∀ c : ClientConfig, (Json.parse? c.toJson.render).bind ofJson? = some c) ∧
      ∀ d : Duration, Duration.ofSpelling? d.spell = some d := by
  refine ⟨fun c => ?_, Duration.ofSpelling?_spell⟩
  rw [parse?_render c.readsBack_toJson]
  exact ofJson?_toJson c

end ClientConfig

end OpcUa
