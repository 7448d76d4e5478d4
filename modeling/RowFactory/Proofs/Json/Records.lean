import RowFactory.Json.Decoding
import RowFactory.Proofs.Json.Documents

/-! # Values that documents restore

A document restores a value if it can be written and the decoder of the value accepts what is read back. Texts,
flags, lists and records restore their values if their parts do; a record is followed member by member, from the
empty draft to the draft that all its members have filled.
-/

namespace RowFactory.Json

variable {α β σ : Type} {decode : Decoder α} {d : Document} {value : α}

/-- The document can be written, and the value is decoded from its closed form. -/
structure Restores (decode : Decoder α) (d : Document) (value : α) : Prop where
  plain : d.Plain
  decodes : decode d.closed = .ok value

theorem Restores.decodeWhole_read_write (h : Restores decode d value) :
    decodeWhole decode (read (write d)) = .ok value := by
  rw [read_write h.plain, decodeWhole, h.decodes]
  rfl

theorem restores_text (text : String) : Restores decodeText (.text text) text := ⟨.string text, rfl⟩

theorem restores_flag (value : Bool) : Restores decodeFlag (.bool value) value := ⟨.bool value, rfl⟩

theorem decodeList_closed {encode : α → Document} {values : List α}
    (h : ∀ value ∈ values, decode (encode value).closed = .ok value) :
    decodeList decode (Document.list (values.map encode)).closed = .ok values := by
  have hItems : (closedItems (values.map encode)).mapM decode = .ok values := by
    induction values with
    | nil => rfl
    | cons value rest ih =>
      have hRest := ih fun value hv => h value (List.mem_cons_of_mem _ hv)
      rw [List.map_cons, closedItems, List.mapM_cons, h value List.mem_cons_self, hRest]
      rfl
  rw [Document.list, Document.closed, decodeList, hItems]
  rfl

theorem restores_list {encode : α → Document} {values : List α}
    (h : ∀ value ∈ values, Restores decode (encode value) value) :
    Restores (decodeList decode) (.list (values.map encode)) values where
  plain := by
    refine .array _ fun d hd => ?_
    obtain ⟨value, hv, rfl⟩ := List.mem_map.mp hd
    exact (h value hv).plain
  decodes := decodeList_closed fun value hv => (h value hv).decodes

theorem Restores.option (h : Restores decode d value) (hNull : d.closed ≠ .null) :
    Restores (decodeOption decode) d (some value) where
  plain := h.plain
  decodes := by
    unfold decodeOption
    split
    · contradiction
    · rw [h.decodes]
      rfl

theorem restores_some_text (text : String) : Restores (decodeOption decodeText) (.text text) (some text) :=
  (restores_text text).option nofun

theorem restores_some_list {encode : α → Document} {values : List α}
    (h : ∀ value ∈ values, Restores decode (encode value) value) :
    Restores (decodeOption (decodeList decode)) (.list (values.map encode)) (some values) :=
  (restores_list h).option nofun

/-- The members take one draft of a record to another, each that is present through the place of its name. -/
inductive Fills (place : String → Option (σ → Document → Except Error σ)) :
    List (String × Option Document) → σ → σ → Prop where
  | nil (s : σ) : Fills place [] s s
  | absent {name : String} {rest : List (String × Option Document)} {s t : σ} (fills : Fills place rest s t) :
      Fills place ((name, none) :: rest) s t
  | present {name : String} {d : Document} {rest : List (String × Option Document)} {s s' t : σ}
      {step : σ → Document → Except Error σ} (plain : d.Plain) (known : place name = some step)
      (steps : step s d.closed = .ok s') (fills : Fills place rest s' t) : Fills place ((name, some d) :: rest) s t

variable {place : String → Option (σ → Document → Except Error σ)} {members : List (String × Option Document)}
  {s t : σ}

theorem Fills.plain (h : Fills place members s t) {name : String} {d : Document} (hm : (name, some d) ∈ members) :
    d.Plain := by
  induction h with
  | nil => cases hm
  | absent fills ih =>
    obtain hm | hm := List.mem_cons.mp hm
    · cases hm
    · exact ih hm
  | present plain known steps fills ih =>
    obtain hm | hm := List.mem_cons.mp hm
    · cases hm
      exact plain
    · exact ih hm

theorem exists_of_mem_record {m : Document × Document}
    (hm : m ∈ members.filterMap fun (name, value?) => value?.map fun value => (.string name, value)) :
    ∃ name d, (name, some d) ∈ members ∧ m = (.string name, d) := by
  obtain ⟨⟨name, value?⟩, hIn, hValue⟩ := List.mem_filterMap.mp hm
  obtain ⟨d, rfl, rfl⟩ := Option.map_eq_some_iff.mp hValue
  exact ⟨name, d, hIn, rfl⟩

theorem Fills.plain_record (h : Fills place members s t) : (Document.record members).Plain := by
  refine .object _ (fun m hm => ?_) fun m hm => ?_
  · obtain ⟨name, d, -, rfl⟩ := exists_of_mem_record hm
    exact ⟨name, rfl⟩
  · obtain ⟨name, d, hIn, rfl⟩ := exists_of_mem_record hm
    exact h.plain hIn

theorem decodeMembers_known {name : String} {step : σ → Document → Except Error σ} {s s' : σ}
    (known : place name = some step) (steps : step s d = .ok s') (rest : List (Document × Document)) :
    decodeMembers place ((.string name, d) :: rest) s = decodeMembers place rest s' := by
  simp only [decodeMembers, decodeKey, bind, Except.bind, known, steps]

theorem Fills.decodeMembers (h : Fills place members s t) :
    decodeMembers place
      (closedMembers (members.filterMap fun (name, value?) => value?.map fun value => (.string name, value))) s =
      .ok t := by
  induction h with
  | nil s => rfl
  | absent fills ih => exact ih
  | present plain known steps fills ih => exact (decodeMembers_known known steps _).trans ih

theorem Fills.restores {record : String} {build : σ → Except Error α}
    {inOrder : Positional → Except Error (α × Positional)} {size : Nat} (h : Fills place members s t)
    (hBuild : build t = .ok value) :
    Restores (decodeRecord record place s build inOrder size) (.record members) value where
  plain := h.plain_record
  decodes := by
    rw [Document.record, Document.closed, decodeRecord, h.decodeMembers]
    exact hBuild

theorem fillPlace_none (name : String) (h : decode d = .ok value) :
    fillPlace name decode none d = .ok (some value) := by
  rw [fillPlace, h]
  rfl

/-- A member that is always there. `put` gives the draft for what stands at the place of the member. -/
theorem Fills.member {decode : Decoder β} {name : String} {value : β} {step : σ → Document → Except Error σ}
    (put : Option β → σ) (known : place name = some step)
    (steps : ∀ d, step (put none) d = do return put (← fillPlace name decode none d)) (hValue : Restores decode d value)
    (fills : Fills place members (put (some value)) t) : Fills place ((name, some d) :: members) (put none) t := by
  refine .present hValue.plain known ?_ fills
  rw [steps, fillPlace_none name hValue.decodes]
  rfl

theorem Fills.optional {decode : Decoder (Option β)} {encode : β → Document} {name : String} {value? : Option β}
    {step : σ → Document → Except Error σ} (put : Option (Option β) → σ) (known : place name = some step)
    (steps : ∀ d, step (put none) d = do return put (← fillPlace name decode none d))
    (hValue : ∀ value, Restores decode (encode value) (some value))
    (fills : Fills place members (put (value?.map some)) t) :
    Fills place ((name, value?.map encode) :: members) (put none) t := by
  cases value? with
  | none => exact .absent fills
  | some value => exact .member put known steps (hValue value) fills

end RowFactory.Json
