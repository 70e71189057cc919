import Mathlib.Data.List.Sort
import ModuleRuntime.Log.Record
import ModuleRuntime.Proofs.Text.Pieces
import ModuleRuntime.Proofs.Text.Separators

/-!
# Reading log records back

The text of a record shows its event, its message and its fields with three separators between them,
any of which may also stand in the message. Whoever reads it takes the first one for the end of the
event and the last one for the end of the message, so the record comes back as long as neither the
event nor a field has a separator in it. A message without fields has to be such that nothing in it
is taken for a field.
-/

set_option autoImplicit false

namespace ModuleRuntime.Log.Record

open Text (DividesLast isBlank)

/-! ## Fields -/

/-- A field that its text shows unmistakably: its key is a word without the marks that end keys and
fields, and its value is a text without separators and without blanks around it. -/
structure IsPlainField (field : String × Json) : Prop where
  blank_notMem : ∀ c ∈ field.1.toList, isBlank c = false
  equals_notMem : '=' ∉ field.1.toList
  comma_notMem : ',' ∉ field.1.toList
  value : ∃ s, field.2 = .string s ∧ Text.trim s = s ∧ ¬", ".toList <:+: s.toList ∧
    ¬" - ".toList <:+: s.toList

namespace IsPlainField

variable {field : String × Json}

/-- The key of a plain field has no blank. -/
theorem space_notMem (h : IsPlainField field) : ' ' ∉ field.1.toList := fun hspace =>
  Bool.false_ne_true (h.blank_notMem ' ' hspace).symm

/-- The text of a field, divided where its key ends. -/
theorem exists_toList_fieldText (h : IsPlainField field) : ∃ s, field.2 = .string s ∧
    Text.trim s = s ∧ (fieldText field).toList = field.1.toList ++ '=' :: s.toList ∧
      ¬[',', ' '] <:+: s.toList ∧ ¬[' ', '-', ' '] <:+: s.toList := by
  obtain ⟨key, v⟩ := field
  obtain ⟨s, rfl, htrim, hcomma, hdash⟩ := h.value
  exact ⟨s, rfl, htrim, by simp [fieldText], hcomma, hdash⟩

/-- A field is read back from its text. -/
theorem readField?_fieldText (h : IsPlainField field) :
    readField? (fieldText field).toList = some field := by
  obtain ⟨s, hvalue, htrim, htext, -, -⟩ := h.exists_toList_fieldText
  have hsplit : Text.splitFirst ['='] (fieldText field).toList = some (field.1.toList, s.toList) :=
    Text.splitFirst_singleton_eq_some_iff.mpr ⟨htext, h.equals_notMem⟩
  have hkey : Text.trimChars field.1.toList = field.1.toList := Text.trimChars_eq_self
    ⟨fun c hc => h.blank_notMem c (List.mem_of_mem_head? hc),
      fun c hc => h.blank_notMem c (List.mem_of_mem_getLast? hc)⟩
  have hs : String.ofList (Text.trimChars s.toList) = s := htrim
  unfold readField?
  rw [hsplit, Option.map_some]
  show some (String.ofList (Text.trimChars field.1.toList),
    Json.string (String.ofList (Text.trimChars s.toList))) = some field
  rw [hkey, hs, String.ofList_toList, ← hvalue]

/-- No separator of fields stands in the text of a field. -/
theorem comma_notInfix (h : IsPlainField field) : ¬[',', ' '] <:+: (fieldText field).toList := by
  obtain ⟨s, -, -, htext, hcomma, -⟩ := h.exists_toList_fieldText
  rw [htext, Text.infix_append_cons_iff (by decide), not_or]
  exact ⟨fun hkey => h.comma_notMem (hkey.subset List.mem_cons_self), hcomma⟩

/-- No end of a message stands in the text of a field and the blank before it. -/
theorem dash_notInfix (h : IsPlainField field) :
    ¬[' ', '-', ' '] <:+: ' ' :: (fieldText field).toList := by
  obtain ⟨s, -, -, htext, -, hdash⟩ := h.exists_toList_fieldText
  rw [htext, ← List.cons_append, Text.infix_append_cons_iff (by decide), not_or]
  refine ⟨fun hkey => h.space_notMem ?_, hdash⟩
  -- What is left of the separator behind the blank has a blank too.
  rcases List.infix_cons_iff.mp hkey with hstarts | hinside
  · obtain ⟨-, hrest⟩ := List.cons_prefix_cons.mp hstarts
    exact hrest.subset (by decide)
  · exact hinside.subset (by decide)

end IsPlainField

/-! ## Several fields -/

variable {fields : List (String × Json)}

/-- The text of fields, in their order. -/
def fieldsText (fields : List (String × Json)) : List Char :=
  [',', ' '].intercalate (fields.map fun field => (fieldText field).toList)

/-- The text of one field. -/
theorem fieldsText_singleton (field : String × Json) :
    fieldsText [field] = (fieldText field).toList :=
  List.intercalate_singleton

/-- The text of several fields has a separator behind the first one. -/
theorem fieldsText_cons_cons (field next : String × Json) (others : List (String × Json)) :
    fieldsText (field :: next :: others) =
      (fieldText field).toList ++ ',' :: ' ' :: fieldsText (next :: others) := by
  simp [fieldsText, List.intercalate_cons_cons]

/-- No end of a message stands in the text of fields and the blank before it. -/
theorem dash_notInfix_fieldsText (hplain : ∀ field ∈ fields, IsPlainField field) :
    ¬[' ', '-', ' '] <:+: ' ' :: fieldsText fields := by
  induction fields with
  | nil => decide
  | cons field rest ih =>
    obtain ⟨hfield, hrest⟩ := List.forall_mem_cons.mp hplain
    cases rest with
    | nil =>
      rw [fieldsText_singleton]
      exact hfield.dash_notInfix
    | cons next others =>
      -- The blank of the comma is the one before the text of the other fields.
      rw [fieldsText_cons_cons, ← List.cons_append, Text.infix_append_cons_iff (by decide), not_or]
      exact ⟨hfield.dash_notInfix, ih hrest⟩

/-- Fields with distinct keys are read back from their text. -/
theorem ofList_fieldsText (hne : fields ≠ [])
    (hplain : ∀ field ∈ fields, IsPlainField field) (hnodup : (fields.map Prod.fst).Nodup) :
    (Dictionary.ofList ((Text.splitAll [',', ' '] (fieldsText fields)).filterMap
      readField?)).entries = fields := by
  have hsplit : Text.splitAll [',', ' '] (fieldsText fields) =
      fields.map fun field => (fieldText field).toList := by
    refine Text.splitAll_intercalate (by decide) (by simpa using hne) fun piece hpiece => ?_
    obtain ⟨field, hfield, rfl⟩ := List.mem_map.mp hpiece
    exact (hplain field hfield).comma_notInfix
  have hread :
      (fields.map fun field => (fieldText field).toList).filterMap readField? = fields := by
    rw [List.filterMap_map]
    calc fields.filterMap (readField? ∘ fun field => (fieldText field).toList)
        = fields.filterMap some :=
          List.filterMap_congr fun field hfield => (hplain field hfield).readField?_fieldText
      _ = fields := List.filterMap_some
  rw [hsplit, hread, Dictionary.entries_ofList hnodup]

/-- Where there are fields, their text has a mark that ends a key. -/
theorem equals_mem_fieldsText (hne : fields ≠ [])
    (hplain : ∀ field ∈ fields, IsPlainField field) : '=' ∈ fieldsText fields := by
  cases fields with
  | nil => exact absurd rfl hne
  | cons field rest =>
    obtain ⟨s, -, -, htext, -, -⟩ := (hplain field List.mem_cons_self).exists_toList_fieldText
    have hmem : '=' ∈ (fieldText field).toList := htext ▸ List.mem_append_right _ List.mem_cons_self
    cases rest with
    | nil => rwa [fieldsText_singleton]
    | cons next others =>
      rw [fieldsText_cons_cons]
      exact List.mem_append_left _ hmem

/-! ## Records -/

/-- A record that its text shows unmistakably. Nothing is asked of its message if it has fields;
without fields, what stands behind the last dash of the message has no mark of a field. -/
structure IsPlain (r : Record) : Prop where
  event_ne : r.event ≠ ""
  space_notMem : ' ' ∉ r.event.toList
  fields : ∀ field ∈ r.fields.entries, IsPlainField field
  message : r.fields.entries = [] → ∀ before after,
    DividesLast " - ".toList r.message.toList before after → '=' ∉ after

/-- A record has what another one says: its level, its target, its event and its message, and the
same value under every key, with the keys in their order. -/
structure Restores (r r' : Record) : Prop where
  level : r'.level = r.level
  target : r'.target = r.target
  event : r'.event = r.event
  message : r'.message = r.message
  fields : ∀ key, r'.fields.find? key = r.fields.find? key
  entries : r'.fields.entries = r.sortedFields

variable {r : Record}

/-- What follows the event in the text of a record. -/
def restText (r : Record) : List Char :=
  r.message.toList ++
    if r.fields.entries.isEmpty then [] else [' ', '-', ' '] ++ fieldsText r.sortedFields

/-- The text of a record behind its level and its target. -/
theorem toList_body (r : Record) :
    r.body.toList = r.event.toList ++ [':', ' '] ++ r.restText := by
  unfold body restText fieldsText
  split <;> simp [String.toList_intercalate, Function.comp_def]

/-- The fields of a record, in the order in which they are shown. -/
theorem sortedFields_perm (r : Record) : r.sortedFields.Perm r.fields.entries :=
  List.mergeSort_perm _ _

/-- The event of a plain record is read back. -/
theorem IsPlain.splitEvent?_body (h : r.IsPlain) :
    splitEvent? r.body.toList = some (r.event.toList, r.restText) := by
  have hfree : ¬[':', ' '] <:+: r.event.toList := fun hcolon =>
    h.space_notMem (hcolon.subset (by decide))
  have hsplit : Text.splitFirst [':', ' '] r.body.toList = some (r.event.toList, r.restText) := by
    rw [toList_body, Text.splitFirst_eq_some_iff (by decide)]
    exact Text.dividesFirst_pair (by decide) hfree r.restText
  have hne : r.event.toList ≠ [] := fun hnil => h.event_ne (String.toList_eq_nil_iff.mp hnil)
  unfold splitEvent?
  simp [hsplit, hne, h.space_notMem]

/-- In the message of a plain record without fields, nothing is taken for a field. -/
theorem IsPlain.splitFields_message (h : r.IsPlain) (hnone : r.fields.entries = []) :
    splitFields r.message.toList = (r.message.toList, Dictionary.empty) := by
  unfold splitFields
  cases hsplit : Text.splitLast [' ', '-', ' '] r.message.toList with
  | none => rfl
  | some parts =>
    have hequals : '=' ∉ parts.2 :=
      h.message hnone parts.1 parts.2 (Text.dividesLast_of_splitLast (by decide) hsplit)
    simp [hequals]

/-- Behind any message, the last dash is the one before the fields. -/
theorem splitLast_fieldsText (message : List Char) (hplain : ∀ field ∈ fields, IsPlainField field) :
    Text.splitLast [' ', '-', ' '] (message ++ [' ', '-', ' '] ++ fieldsText fields) =
      some (message, fieldsText fields) := by
  rw [Text.splitLast_eq_some_iff (by decide)]
  refine Text.dividesLast_append (fun hdash => ?_) message
  -- The first of its blanks would be the one before the fields, or stand in them.
  rcases List.infix_cons_iff.mp hdash with hstarts | hlater
  · exact absurd (List.cons_prefix_cons.mp hstarts).1 (by decide)
  · exact dash_notInfix_fieldsText hplain hlater

/-- The message and the fields of a plain record are read back. -/
theorem IsPlain.splitFields_restText (h : r.IsPlain) :
    ∃ fields, splitFields r.restText = (r.message.toList, fields) ∧
      fields.entries = r.sortedFields := by
  have hperm := r.sortedFields_perm
  by_cases hnone : r.fields.entries = []
  · have hrest : r.restText = r.message.toList := by simp [restText, hnone]
    refine ⟨Dictionary.empty, ?_, (List.perm_nil.mp (hnone ▸ hperm)).symm⟩
    rw [hrest, h.splitFields_message hnone]
  · have hne : r.sortedFields ≠ [] := fun hnil => hnone (List.nil_perm.mp (hnil ▸ hperm))
    have hplain : ∀ field ∈ r.sortedFields, IsPlainField field := fun field hfield =>
      h.fields field (hperm.mem_iff.mp hfield)
    have hnodup : (r.sortedFields.map Prod.fst).Nodup :=
      (hperm.map Prod.fst).nodup_iff.mpr r.fields.nodup_keys
    have hrest : r.restText = r.message.toList ++ [' ', '-', ' '] ++ fieldsText r.sortedFields := by
      simp [restText, hnone]
    refine ⟨_, ?_, ofList_fieldsText hne hplain hnodup⟩
    unfold splitFields
    rw [hrest, splitLast_fieldsText r.message.toList hplain]
    simp [equals_mem_fieldsText hne hplain]

/-- A plain record is read back from what its text shows behind its level and its target. Its
message may be any text, also one with the separators in it, if the record has fields. -/
theorem IsPlain.restores_parse (h : r.IsPlain) {text : String} (htext : r.toText = r.header ++ text)
    (timestamp : Nat) : r.Restores (.parse r.level r.target text timestamp) := by
  have hbody : text = r.body := (String.append_right_inj r.header).mp htext.symm
  obtain ⟨fields, hfields, hentries⟩ := h.splitFields_restText
  have hparse : parse r.level r.target text timestamp =
      ⟨r.level, r.target, r.event, r.message, fields, timestamp⟩ := by
    unfold parse
    simp only [hbody, h.splitEvent?_body, hfields, String.ofList_toList]
  rw [hparse]
  refine ⟨rfl, rfl, rfl, rfl, fun key => Option.ext fun v => ?_, hentries⟩
  rw [← Dictionary.mem_entries_iff, ← Dictionary.mem_entries_iff, hentries]
  exact r.sortedFields_perm.mem_iff

/-- A record with both separators in its message and parts of them in its fields. -/
def puzzling : Record where
  level := .warn
  target := "core"
  event := "mod.x:"
  message := "loaded: a=1, b - c -"
  fields := Dictionary.ofList [("-", .string "-"), ("", .string "a=b,c ,")]
  timestamp := 0

/-- A record may be plain although its message and its fields hold separators. -/
theorem isPlain_puzzling : puzzling.IsPlain where
  event_ne := by decide
  space_notMem := by decide
  fields := by
    intro field hfield
    rcases List.mem_pair.mp hfield with rfl | rfl
    · have hblank : ∀ c ∈ "-".toList, isBlank c = false := by simp [isBlank]
      exact ⟨hblank, by decide, by decide, "-", rfl, by decide, by decide, by decide⟩
    · have hblank : ∀ c ∈ "".toList, isBlank c = false := by simp
      exact ⟨hblank, by decide, by decide, "a=b,c ,", rfl, by decide, by decide, by decide⟩
  message := fun hnone => nomatch hnone

/-- The fields of the puzzling record, in the order in which they are shown. -/
theorem sortedFields_puzzling :
    puzzling.sortedFields = [("", .string "a=b,c ,"), ("-", .string "-")] := by
  show List.mergeSort [("-", Json.string "-"), ("", .string "a=b,c ,")] _ = _
  simp [List.mergeSort]

/-- The puzzling record is restored from its text. -/
theorem restores_parse_puzzling :
    puzzling.toText =
        puzzling.header ++ "mod.x:: loaded: a=1, b - c - - =a=b,c ,, -=-" ∧ puzzling.IsPlain ∧
      puzzling.Restores (.parse .warn "core" "mod.x:: loaded: a=1, b - c - - =a=b,c ,, -=-" 7) := by
  have htext : puzzling.toText =
      puzzling.header ++ "mod.x:: loaded: a=1, b - c - - =a=b,c ,, -=-" := by
    rw [toText, body, sortedFields_puzzling]
    rfl
  exact ⟨htext, isPlain_puzzling, isPlain_puzzling.restores_parse htext 7⟩

end ModuleRuntime.Log.Record
