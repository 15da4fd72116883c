import DocumentSchema.Message
import Mathlib.Data.List.Induction
import Mathlib.Data.List.Nodup

/-!
# Messages on the wire

On the wire the entries of the context stand beside what the message says itself, in one object. So
the keys of the context, which whoever runs a check chooses, must be distinct, and none of them may
be one that the message uses. `Message.Clean` says this. Every step in the making of a message keeps
it, and so does reading, whatever is read.

## Both ways

A clean message is what is read back from its wire object, with its context in order; only an
expectation of null cannot be told from none. Conversely a message that was read is written with the
entries of the object that it was read from, again without an expectation of null. Its own entries
come first then, wherever they stood, and the others keep their order.
-/

namespace DocumentSchema

namespace Message

variable {message : Message} {key : String}

/-! ## The making of a message -/

/-- A step in the making of a message. -/
inductive Edit where
  | expectation (value : Json)
  | entry (key : String) (value : Json)
  | context (entries : Members)

def edit (message : Message) : Edit → Message
  | .expectation value => message.withExpected value
  | .entry key value => message.withContext key value
  | .context entries => message.extendContext entries

def editAll (message : Message) (edits : List Edit) : Message := edits.foldl edit message

/-- The expectation that a step sets. -/
def Edit.expectation? : Edit → Option Json
  | .expectation value => some value
  | _ => none

/-- The expectation that was set last. -/
def lastExpectation? (edits : List Edit) : Option Json :=
  (edits.filterMap Edit.expectation?).getLast?

theorem editAll_append_singleton (message : Message) (edits : List Edit) (last : Edit) :
    message.editAll (edits ++ [last]) = (message.editAll edits).edit last := by
  rw [editAll, List.foldl_append]
  rfl

theorem kind_field_edit (message : Message) (edit : Edit) :
    (message.edit edit).kind = message.kind ∧ (message.edit edit).field = message.field := by
  rcases edit with value | ⟨key, value⟩ | entries
  · exact ⟨rfl, rfl⟩
  · exact ⟨message.kind_withContext key value, message.field_withContext key value⟩
  · exact ⟨message.kind_extendContext entries, message.field_extendContext entries⟩

theorem kind_field_editAll (message : Message) (edits : List Edit) :
    (message.editAll edits).kind = message.kind ∧
      (message.editAll edits).field = message.field := by
  induction edits generalizing message with
  | nil => exact ⟨rfl, rfl⟩
  | cons edit rest ih =>
    obtain ⟨hkind, hfield⟩ := kind_field_edit message edit
    obtain ⟨hkinds, hfields⟩ := ih (message.edit edit)
    exact ⟨hkinds.trans hkind, hfields.trans hfield⟩

theorem expected_edit (message : Message) (edit : Edit) :
    (message.edit edit).expected = edit.expectation?.or message.expected := by
  rcases edit with value | ⟨key, value⟩ | entries
  · rfl
  · exact message.expected_withContext key value
  · exact message.expected_extendContext entries

theorem expected_editAll (message : Message) (edits : List Edit) :
    (message.editAll edits).expected = (lastExpectation? edits).or message.expected := by
  induction edits using List.reverseRecOn with
  | nil => rfl
  | append_singleton edits last ih =>
    rw [editAll_append_singleton, expected_edit, ih, lastExpectation?, lastExpectation?,
      List.filterMap_append, List.getLast?_append, Option.or_assoc]
    rcases last with value | ⟨key, value⟩ | entries <;> rfl

/-! ## Contexts -/

theorem isContextKey_of_mem (h : key ∈ reservedKeys) : isContextKey key = false := by
  simp [isContextKey, h]

/-- **A context is put in without its reserved keys**, and nothing else changes. -/
theorem extendContext_eq (message : Message) (context : Members) :
    message.extendContext context = { message with
      context := message.context.update (context.filter (isContextKey ·.1)) } := by
  induction context generalizing message with
  | nil => rfl
  | cons entry rest ih =>
    rw [extendContext_cons, ih, withContext, List.filter_cons]
    split
    · rw [Entries.update_cons]
    · rfl

/-- **Contexts can be put in one after the other, or put together first.** -/
theorem extendContext_extendContext (message : Message) {first : Members}
    (h : (Entries.keys first).Nodup) (second : Members) :
    (message.extendContext first).extendContext second
      = message.extendContext (first.update second) := by
  have hchosen : (Entries.keys (first.filter (isContextKey ·.1))).Nodup :=
    h.sublist (List.filter_sublist.map _)
  rw [extendContext_eq, extendContext_eq, extendContext_eq, Entries.filter_update,
    Entries.update_update hchosen]

/-- The keys of the context are distinct, and none of them is reserved. -/
structure Clean (message : Message) : Prop where
  distinct : (Entries.keys message.context).Nodup
  free : ∀ key ∈ Entries.keys message.context, isContextKey key = true

theorem clean_new (kind field : String) : (new kind field).Clean :=
  ⟨List.nodup_nil, fun _ hkey ↦ absurd hkey List.not_mem_nil⟩

theorem Clean.withContext (h : message.Clean) (key : String) (value : Json) :
    (message.withContext key value).Clean := by
  rw [Message.withContext]
  split
  · rename_i hkey
    refine ⟨Entries.nodup_keys_insert h.distinct key value, fun other hother ↦ ?_⟩
    rcases Entries.mem_keys_insert.mp hother with rfl | hother
    · exact hkey
    · exact h.free other hother
  · exact h

theorem Clean.extendContext (h : message.Clean) (context : Members) :
    (message.extendContext context).Clean := by
  induction context generalizing message with
  | nil => exact h
  | cons entry rest ih => exact ih (h.withContext entry.1 entry.2)

theorem Clean.edit (h : message.Clean) (edit : Edit) : (message.edit edit).Clean := by
  rcases edit with value | ⟨key, value⟩ | entries
  · exact ⟨h.distinct, h.free⟩
  · exact h.withContext key value
  · exact h.extendContext entries

/-- **Every message that is made is clean.** -/
theorem Clean.editAll (h : message.Clean) (edits : List Edit) : (message.editAll edits).Clean := by
  induction edits generalizing message with
  | nil => exact h
  | cons edit rest ih => exact ih (h.edit edit)

theorem Clean.notMem (h : message.Clean) (hkey : key ∈ reservedKeys) :
    key ∉ Entries.keys message.context := by
  intro hmem
  have hfree := h.free key hmem
  rw [isContextKey_of_mem hkey] at hfree
  cases hfree

/-! ## The wire object -/

theorem wire_eq (message : Message) : message.wire = ("type", .string message.kind) ::
    ("field", .string message.field) ::
      ((message.expected.map fun value ↦ ("expected", value)).toList ++ message.context) := rfl

theorem keys_wire (message : Message) : Entries.keys message.wire
    = ["type", "field"] ++ (if message.expected.isSome then ["expected"] else []) ++
      Entries.keys message.context := by
  rw [wire_eq, Entries.keys_cons, Entries.keys_cons, Entries.keys, List.map_append]
  rcases message.expected with _ | value <;> rfl

/-- **No key of the wire object occurs twice.** -/
theorem Clean.nodup_keys_wire (h : message.Clean) : (Entries.keys message.wire).Nodup := by
  have htype : "type" ∉ Entries.keys message.context := h.notMem (by decide)
  have hfield : "field" ∉ Entries.keys message.context := h.notMem (by decide)
  have hexpected : "expected" ∉ Entries.keys message.context := h.notMem (by decide)
  rw [keys_wire]
  rcases message.expected.isSome <;> simp [htype, hfield, hexpected, h.distinct]

theorem Clean.get?_wire_iff (h : message.Clean) {value : Json} :
    Entries.get? message.wire key = some value ↔ (key, value) ∈ message.wire :=
  (Entries.mem_iff_get?_eq_some h.nodup_keys_wire).symm

theorem Clean.get?_wire_expected (h : message.Clean) :
    Entries.get? message.wire "expected" = message.expected := by
  rcases hexpected : message.expected with _ | value
  · have hfree : "expected" ∉ Entries.keys message.context := h.notMem (by decide)
    rw [Entries.get?_eq_none_iff, keys_wire, hexpected]
    simpa using hfree
  · rw [h.get?_wire_iff, wire_eq, hexpected]
    simp

theorem Clean.filter_wire (h : message.Clean) :
    message.wire.filter (isContextKey ·.1) = message.context := by
  have hcontext : message.context.filter (isContextKey ·.1) = message.context :=
    List.filter_eq_self.mpr fun entry hentry ↦ h.free entry.1 (List.mem_map_of_mem hentry)
  rw [wire, List.filter_append, hcontext]
  rcases message.expected with _ | value <;> rfl

/-! ## Reading -/

/-- **An object is read if its kind and field are texts.** An expectation of null is none, and what
is not reserved is the context. -/
theorem ofWire?_eq_some_iff {wire : Json} : ofWire? wire = some message ↔
    ∃ members, wire = .object members ∧
      Entries.get? members "type" = some (.string message.kind) ∧
      Entries.get? members "field" = some (.string message.field) ∧
      message.expected = (Entries.get? members "expected").filter (!·.isNull) ∧
      message.context = members.filter (isContextKey ·.1) := by
  rcases message with ⟨kind, field, expected, context⟩
  simp only [ofWire?, Option.bind_eq_bind, Option.bind_eq_some_iff, Option.pure_def,
    Option.some.injEq, Message.mk.injEq, Json.asObject?_eq_some_iff, Json.asString?_eq_some_iff]
  constructor
  · rintro ⟨members, rfl, _, hkind, _, rfl, _, hfield, _, rfl, rfl, rfl, rfl, rfl⟩
    exact ⟨members, rfl, hkind, hfield, rfl, rfl⟩
  · rintro ⟨members, rfl, hkind, hfield, rfl, rfl⟩
    exact ⟨members, rfl, _, hkind, _, rfl, _, hfield, _, rfl, rfl, rfl, rfl, rfl⟩

def dropNull (message : Message) : Message :=
  { message with expected := message.expected.filter (!·.isNull) }

/-- **A clean message is read back**, but for an expectation of null. -/
theorem Clean.ofWire?_toJson (h : message.Clean) :
    ofWire? message.toJson = some message.dropNull := by
  rw [ofWire?_eq_some_iff]
  refine ⟨message.wire, rfl, ?_, ?_, ?_, ?_⟩
  · rw [h.get?_wire_iff, wire_eq]
    exact List.mem_cons_self
  · rw [h.get?_wire_iff, wire_eq]
    exact List.mem_cons_of_mem _ List.mem_cons_self
  · rw [h.get?_wire_expected]
    rfl
  · exact h.filter_wire.symm

theorem clean_of_ofWire? {members : Members} (hdistinct : (Entries.keys members).Nodup)
    (h : ofWire? (.object members) = some message) : message.Clean := by
  obtain ⟨_, hobject, -, -, -, hcontext⟩ := ofWire?_eq_some_iff.mp h
  obtain rfl := Json.object.inj hobject
  constructor
  · rw [hcontext]
    exact hdistinct.sublist (List.filter_sublist.map _)
  · intro key hkey
    rw [hcontext] at hkey
    obtain ⟨entry, hentry, rfl⟩ := List.mem_map.mp hkey
    exact (List.mem_filter.mp hentry).2

/-! ## Writing what was read -/

theorem mem_wire_iff {entry : String × Json} : entry ∈ message.wire ↔
    entry = ("type", .string message.kind) ∨ entry = ("field", .string message.field) ∨
      (∃ value, message.expected = some value ∧ entry = ("expected", value)) ∨
        entry ∈ message.context := by
  rw [wire_eq, List.mem_cons, List.mem_cons, List.mem_append, Option.mem_toList,
    Option.map_eq_some_iff]
  simp only [eq_comm]

/-- The entry is written again. Only an expectation of null is not. -/
def isWritten (entry : String × Json) : Bool := !(entry.1 = "expected" && entry.2.isNull)

/-- The entries that a message is written with, beside those it was read from. -/
structure Rewrites (members wire : Members) : Prop where
  /-- The entries are the same, without an expectation of null. -/
  sameEntries : wire.Perm (members.filter isWritten)
  /-- Kind and field come first, then what is expected, and the rest as it stood. -/
  order : Entries.keys wire = ["type", "field"] ++
    (if (Entries.get? members "expected").any (!·.isNull) then ["expected"] else []) ++
      (Entries.keys members).filter isContextKey

/-- An entry of the object that a message was read from is written again, and no other is. -/
theorem mem_wire_iff_of_ofWire? {members : Members} (hdistinct : (Entries.keys members).Nodup)
    (h : ofWire? (.object members) = some message) (entry : String × Json) :
    entry ∈ message.wire ↔ entry ∈ members.filter isWritten := by
  obtain ⟨_, hobject, hkind, hfield, hexpected, hcontext⟩ := ofWire?_eq_some_iff.mp h
  obtain rfl := Json.object.inj hobject
  obtain ⟨key, value⟩ := entry
  rw [mem_wire_iff, hexpected, hcontext, List.mem_filter, List.mem_filter,
    Entries.mem_iff_get?_eq_some hdistinct]
  -- The three keys of a message are looked up; any other is in the context as it is in the object.
  by_cases htype : key = "type"
  · subst htype
    simp [hkind, isContextKey, reservedKeys, isWritten, eq_comm]
  · by_cases hother : key = "field"
    · subst hother
      simp [hfield, isContextKey, reservedKeys, isWritten, eq_comm]
    · by_cases hlast : key = "expected"
      · subst hlast
        simp [isContextKey, reservedKeys, isWritten, Option.filter_eq_some_iff]
      · simp [htype, hother, hlast, isContextKey, reservedKeys, isWritten]

/-- **What was read is written as it was**, with its own entries first. -/
theorem rewrites_of_ofWire? {members : Members} (hdistinct : (Entries.keys members).Nodup)
    (h : ofWire? (.object members) = some message) : Rewrites members message.wire := by
  have hclean := clean_of_ofWire? hdistinct h
  constructor
  · have hmembers : members.Nodup := List.Nodup.of_map _ hdistinct
    rw [List.perm_ext_iff_of_nodup (List.Nodup.of_map _ hclean.nodup_keys_wire)
      (hmembers.filter _)]
    exact mem_wire_iff_of_ofWire? hdistinct h
  · obtain ⟨_, hobject, -, -, hexpected, hcontext⟩ := ofWire?_eq_some_iff.mp h
    obtain rfl := Json.object.inj hobject
    have hkeys : Entries.keys (members.filter (isContextKey ·.1))
        = (Entries.keys members).filter isContextKey := by
      rw [Entries.keys, Entries.keys, List.filter_map]
      rfl
    rw [keys_wire, hexpected, hcontext, hkeys, Option.isSome_filter]

/-! ## Survival -/

/-- **Messages survive the wire, and no context changes what they say.** Whatever keys and values
are put into a message, its own entries are those it was given, its wire object has no key twice,
and it is read back but for an expectation of null. Contexts can be put in one by one or together.
What is read from any object is written with the entries of that object. -/
theorem survives_wire (kind field : String) (edits : List Edit) :
    let message := (new kind field).editAll edits
    ((∀ key ∈ ["type", "field", "expected"], key ∉ Entries.keys message.context) ∧
      message.kind = kind ∧ message.field = field ∧ message.expected = lastExpectation? edits) ∧
    (Entries.keys message.wire).Nodup ∧
    ofWire? message.toJson = some message.dropNull ∧
    (∀ first second : Members, (Entries.keys first).Nodup →
      (message.extendContext first).extendContext second
        = message.extendContext (first.update second)) ∧
    ∀ (members : Members) (read : Message), (Entries.keys members).Nodup →
      ofWire? (.object members) = some read → Rewrites members read.wire := by
  intro message
  have hclean : message.Clean := (clean_new kind field).editAll edits
  obtain ⟨hkind, hfield⟩ := kind_field_editAll (new kind field) edits
  have hexpected : message.expected = lastExpectation? edits := by
    rw [expected_editAll]
    exact Option.or_none
  refine ⟨⟨?_, hkind, hfield, hexpected⟩, hclean.nodup_keys_wire, hclean.ofWire?_toJson, ?_, ?_⟩
  · intro key hkey
    exact hclean.notMem hkey
  · intro first second hfirst
    exact message.extendContext_extendContext hfirst second
  · intro members read hmembers hread
    exact rewrites_of_ofWire? hmembers hread

/-- A null that is found at `metadata`, with contexts that would say otherwise. -/
theorem survives_wire_hijacked :
    let message := (new "null_value" "metadata").editAll [.entry "field" (.string "elsewhere"),
      .entry "line" (.ofNat 1), .expectation .null,
      .context [("type", .null), ("file", .string "a"), ("line", .ofNat 2)]]
    message.context = [("line", .ofNat 2), ("file", .string "a")] ∧
    ofWire? message.toJson = some { message with expected := none } ∧
    (message.extendContext [("line", .ofNat 3)]).extendContext [("line", .ofNat 4)]
      = message.extendContext [("line", .ofNat 4)] ∧
    Rewrites
      [("line", .ofNat 1), ("expected", .null), ("field", .string "a"), ("type", .string "no_match")]
      [("type", .string "no_match"), ("field", .string "a"), ("line", .ofNat 1)] := by
  obtain ⟨-, -, hread, hcontexts, hwrites⟩ := survives_wire "null_value" "metadata"
    [.entry "field" (.string "elsewhere"), .entry "line" (.ofNat 1), .expectation .null,
      .context [("type", .null), ("file", .string "a"), ("line", .ofNat 2)]]
  refine ⟨rfl, hread, hcontexts [("line", .ofNat 3)] [("line", .ofNat 4)] (by decide), ?_⟩
  exact hwrites
    [("line", .ofNat 1), ("expected", .null), ("field", .string "a"), ("type", .string "no_match")]
    { kind := "no_match", field := "a", context := [("line", .ofNat 1)] } (by decide) rfl

end Message

end DocumentSchema
