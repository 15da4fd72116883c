import DocumentSchema.Proofs.Json.Tokens

/-!
# Values that are read back

A value is read back from its text in the two stages of reading. Its text is cut into the tokens of
the value, and these lead from wherever a value may come next to where that value has come. Both are
said with what follows, so that items and members can be taken one after the other.

On the way a text has no line feed, whatever the strings of its value contain, and it begins with a
character that is not blank: that is all a reader of lines has to know of it.
-/

namespace DocumentSchema

open JsonToken

namespace Json

mutual

/-- Every number of the tree is read back from its text. -/
def NumbersReadBack : Json → Prop
  | number value => value.ReadsBack
  | array items => NumbersReadBackItems items
  | object members => NumbersReadBackMembers members
  | _ => True

def NumbersReadBackItems : List Json → Prop
  | [] => True
  | item :: rest => item.NumbersReadBack ∧ NumbersReadBackItems rest

def NumbersReadBackMembers : List (String × Json) → Prop
  | [] => True
  | (_, value) :: rest => value.NumbersReadBack ∧ NumbersReadBackMembers rest

end

mutual

/-- The tokens of a value. -/
def tokens : Json → List JsonToken
  | array [] => [.openList, .closeList]
  | array (item :: rest) => .openList :: (item.tokens ++ (tokensItems rest ++ [.closeList]))
  | object [] => [.openObject, .closeObject]
  | object ((key, value) :: rest) =>
    .openObject :: .scalar (.string key) :: .colon ::
      (value.tokens ++ (tokensMembers rest ++ [.closeObject]))
  | value => [.scalar value]

def tokensItems : List Json → List JsonToken
  | [] => []
  | item :: rest => .comma :: (item.tokens ++ tokensItems rest)

def tokensMembers : List (String × Json) → List JsonToken
  | [] => []
  | (key, value) :: rest =>
    .comma :: .scalar (.string key) :: .colon :: (value.tokens ++ tokensMembers rest)

end

/-! ## Characters of a text -/

theorem toList_text_array (item : Json) (rest : List Json) :
    (array (item :: rest)).text.toList
      = '[' :: (item.text.toList ++ ((textItems rest).toList ++ [']'])) := by
  rw [text]
  simp

theorem toList_text_object (key : String) (value : Json) (rest : List (String × Json)) :
    (object ((key, value) :: rest)).text.toList
      = '\x7b' :: ((stringLiteral key).toList ++ (':' :: (value.text.toList ++
          ((textMembers rest).toList ++ ['\x7d'])))) := by
  rw [text]
  simp

theorem toList_textItems_cons (item : Json) (rest : List Json) :
    (textItems (item :: rest)).toList
      = ',' :: (item.text.toList ++ (textItems rest).toList) := by
  rw [textItems]
  simp

theorem toList_textMembers_cons (key : String) (value : Json) (rest : List (String × Json)) :
    (textMembers ((key, value) :: rest)).toList
      = ',' :: ((stringLiteral key).toList ++ (':' :: (value.text.toList ++
          (textMembers rest).toList))) := by
  rw [textMembers]
  simp

/-! ## Texts in tokens -/

section Cut

variable {rest : List Char} {following : List JsonToken}

theorem cutInto_sign {c : Char} {token : JsonToken} (hblank : isJsonBlank c = false)
    (htoken : ∀ rest, readToken (c :: rest) = some (token, rest)) (h : CutInto rest following) :
    CutInto (c :: rest) (token :: following) := by
  have hcut : CutInto (c :: [] ++ rest) (token :: following) := .cons hblank (htoken rest) h
  exact hcut

theorem cutInto_stringLiteral (text : String) (h : CutInto rest following) :
    CutInto ((stringLiteral text).toList ++ rest) (.scalar (.string text) :: following) := by
  have htoken := readToken_stringLiteral text rest
  have hquote : (stringLiteral text).toList = '"' :: (text.toList.flatMap escapeChar ++ ['"']) := by
    rw [stringLiteral, String.toList_ofList]
    rfl
  rw [hquote] at htoken ⊢
  exact .cons rfl htoken h

theorem cutInto_number {value : Number} (hread : value.ReadsBack) (hends : EndsNumber rest)
    (h : CutInto rest following) :
    CutInto (value.text.toList ++ rest) (.scalar (.number value) :: following) := by
  have htoken := readToken_of_readNumber (readNumber_append hends hread.readNumber)
  obtain ⟨c, more, htext, hc⟩ := exists_cons_of_readNumber hread.readNumber
  rw [htext] at htoken ⊢
  refine .cons ?_ htoken h
  have hall : ∀ blank ∈ [' ', '\n', '\t', '\r'], blank ≠ '-' ∧ blank.isDigit = false := by simp
  by_contra hblank
  have hmem : c ∈ [' ', '\n', '\t', '\r'] := by
    rw [Bool.not_eq_false, isJsonBlank] at hblank
    simpa [or_assoc] using hblank
  exact ne_of_beginsNumber hc (hall c hmem) rfl

theorem endsNumber_textItems (items : List Json) (hends : EndsNumber rest) :
    EndsNumber ((textItems items).toList ++ rest) := by
  rcases items with _ | ⟨item, more⟩
  · exact hends
  · rw [toList_textItems_cons]
    exact endsNumber_cons (by decide) _

theorem endsNumber_textMembers (members : List (String × Json)) (hends : EndsNumber rest) :
    EndsNumber ((textMembers members).toList ++ rest) := by
  rcases members with _ | ⟨⟨key, value⟩, more⟩
  · exact hends
  · rw [toList_textMembers_cons]
    exact endsNumber_cons (by decide) _

mutual

/-- **The text of a value is cut into its tokens**, before anything that ends a number. -/
theorem cutInto_text (value : Json) (hread : value.NumbersReadBack) {rest : List Char}
    {following : List JsonToken} (hends : EndsNumber rest) (h : CutInto rest following) :
    CutInto (value.text.toList ++ rest) (value.tokens ++ following) := by
  match value, hread with
  | null, _ =>
    have hcut : CutInto ('n' :: ['u', 'l', 'l'] ++ rest) _ := .cons rfl rfl h
    exact hcut
  | bool true, _ =>
    have hcut : CutInto ('t' :: ['r', 'u', 'e'] ++ rest) _ := .cons rfl rfl h
    exact hcut
  | bool false, _ =>
    have hcut : CutInto ('f' :: ['a', 'l', 's', 'e'] ++ rest) _ := .cons rfl rfl h
    exact hcut
  | number value, hread => exact cutInto_number hread hends h
  | string value, _ => exact cutInto_stringLiteral value h
  | array [], _ => exact cutInto_sign rfl (fun _ ↦ rfl) (cutInto_sign rfl (fun _ ↦ rfl) h)
  | array (item :: more), ⟨hitem, hmore⟩ =>
    rw [toList_text_array, tokens]
    simp only [List.cons_append, List.append_assoc, List.nil_append]
    have hclosing : EndsNumber (']' :: rest) := endsNumber_cons (by decide) rest
    refine cutInto_sign rfl (fun _ ↦ rfl) ?_
    refine cutInto_text item hitem (endsNumber_textItems more hclosing) ?_
    exact cutInto_textItems more hmore hclosing (cutInto_sign rfl (fun _ ↦ rfl) h)
  | object [], _ => exact cutInto_sign rfl (fun _ ↦ rfl) (cutInto_sign rfl (fun _ ↦ rfl) h)
  | object ((key, value) :: more), ⟨hvalue, hmore⟩ =>
    rw [toList_text_object, tokens]
    simp only [List.cons_append, List.append_assoc, List.nil_append]
    have hclosing : EndsNumber ('\x7d' :: rest) := endsNumber_cons (by decide) rest
    refine cutInto_sign rfl (fun _ ↦ rfl) (cutInto_stringLiteral key ?_)
    refine cutInto_sign rfl (fun _ ↦ rfl) ?_
    refine cutInto_text value hvalue (endsNumber_textMembers more hclosing) ?_
    exact cutInto_textMembers more hmore hclosing (cutInto_sign rfl (fun _ ↦ rfl) h)

theorem cutInto_textItems (items : List Json) (hread : NumbersReadBackItems items)
    {rest : List Char} {following : List JsonToken} (hends : EndsNumber rest)
    (h : CutInto rest following) :
    CutInto ((textItems items).toList ++ rest) (tokensItems items ++ following) := by
  match items, hread with
  | [], _ => exact h
  | item :: more, ⟨hitem, hmore⟩ =>
    rw [toList_textItems_cons, tokensItems]
    simp only [List.cons_append, List.append_assoc]
    refine cutInto_sign rfl (fun _ ↦ rfl) ?_
    refine cutInto_text item hitem (endsNumber_textItems more hends) ?_
    exact cutInto_textItems more hmore hends h

theorem cutInto_textMembers (members : List (String × Json))
    (hread : NumbersReadBackMembers members) {rest : List Char} {following : List JsonToken}
    (hends : EndsNumber rest) (h : CutInto rest following) :
    CutInto ((textMembers members).toList ++ rest) (tokensMembers members ++ following) := by
  match members, hread with
  | [], _ => exact h
  | (key, value) :: more, ⟨hvalue, hmore⟩ =>
    rw [toList_textMembers_cons, tokensMembers]
    simp only [List.cons_append, List.append_assoc]
    refine cutInto_sign rfl (fun _ ↦ rfl) (cutInto_stringLiteral key ?_)
    refine cutInto_sign rfl (fun _ ↦ rfl) ?_
    refine cutInto_text value hvalue (endsNumber_textMembers more hends) ?_
    exact cutInto_textMembers more hmore hends h

end

end Cut

/-! ## Tokens in values -/

section Run

def readFrom (state : List OpenValue × Expecting) (tokens : List JsonToken) : Option Json :=
  readValue state.1 state.2 tokens

variable {stack : List OpenValue} {following : List JsonToken}

theorem readFrom_mk (expecting : Expecting) :
    readFrom (stack, expecting) following = readValue stack expecting following := rfl

theorem readValue_cons {expecting : Expecting} {token : JsonToken}
    {next : List OpenValue × Expecting} (h : readStep stack expecting token = some next) :
    readValue stack expecting (token :: following) = readFrom next following := by
  rw [readValue, h]
  rfl

theorem readValue_colon {members : Members} {key : String} :
    readValue stack (.colon members key) (.colon :: following)
      = readValue (.object members key :: stack) .value following := by
  have hstep : readStep stack (.colon members key) .colon
      = some (.object members key :: stack, .value) := rfl
  rw [readValue_cons hstep, readFrom_mk]

theorem readValue_itemOrEnd (value : Json) :
    readValue stack .itemOrEnd (value.tokens ++ following)
      = readValue stack .value (value.tokens ++ following) := by
  have hfirst : ∃ token more, value.tokens = token :: more ∧
      readStep stack .itemOrEnd token = readStep stack .value token := by
    rcases value with _ | _ | _ | _ | ⟨_ | _⟩ | ⟨_ | ⟨⟨_, _⟩, _⟩⟩
    all_goals exact ⟨_, _, rfl, rfl⟩
  obtain ⟨token, more, htokens, hstep⟩ := hfirst
  rw [htokens, List.cons_append, readValue, readValue, hstep]

theorem readStep_openList (hroom : stack.length < maxDepth) :
    readStep stack .value .openList = some (.list [] :: stack, .itemOrEnd) := by
  rw [readStep, openWith, if_pos hroom]

theorem readStep_openObject (hroom : stack.length < maxDepth) :
    readStep stack .value .openObject = some (stack, .keyOrEnd []) := by
  rw [readStep, openWith, if_pos hroom]

mutual

/-- **The tokens of a value lead to where the value has come.** -/
theorem readValue_tokens (value : Json) (hkeys : value.KeysDistinct) {stack : List OpenValue}
    {following : List JsonToken} (hdepth : value.depth + stack.length ≤ maxDepth) :
    readValue stack .value (value.tokens ++ following)
      = readFrom (finishValue value stack) following := by
  match value, hkeys with
  | null, _ => exact readValue_cons rfl
  | bool _, _ => exact readValue_cons rfl
  | number _, _ => exact readValue_cons rfl
  | string _, _ => exact readValue_cons rfl
  | array [], _ =>
    rw [depth, depthItems] at hdepth
    rw [tokens, List.cons_append, readValue_cons (readStep_openList (by omega)), readFrom_mk]
    exact readValue_cons rfl
  | array (item :: more), ⟨hitem, hmore⟩ =>
    rw [depth, depthItems] at hdepth
    rw [tokens, List.cons_append, List.append_assoc, List.append_assoc,
      readValue_cons (readStep_openList (by omega)), readFrom_mk, readValue_itemOrEnd,
      readValue_tokens item hitem (by rw [List.length_cons]; omega), finishValue, readFrom_mk]
    exact readValue_tokensItems more hmore (by omega)
  | object [], _ =>
    rw [depth, depthMembers] at hdepth
    rw [tokens, List.cons_append, readValue_cons (readStep_openObject (by omega)), readFrom_mk]
    exact readValue_cons rfl
  | object ((key, value) :: more), ⟨hkeys, hvalue, hmore⟩ =>
    rw [depth, depthMembers] at hdepth
    rw [tokens, List.cons_append, List.cons_append, List.cons_append, List.append_assoc,
      List.append_assoc, readValue_cons (readStep_openObject (by omega)), readFrom_mk]
    have hkey : readStep stack (.keyOrEnd []) (.scalar (.string key))
        = some (stack, .colon [] key) := rfl
    rw [readValue_cons hkey, readFrom_mk, readValue_colon,
      readValue_tokens value hvalue (by rw [List.length_cons]; omega), finishValue, readFrom_mk]
    exact readValue_tokensMembers more hmore hkeys (by omega)

theorem readValue_tokensItems (items : List Json) (hkeys : KeysDistinctItems items)
    {stack : List OpenValue} {following : List JsonToken} {done : List Json}
    (hdepth : depthItems items + stack.length + 1 ≤ maxDepth) :
    readValue (.list done :: stack) .separator
        (tokensItems items ++ (.closeList :: following))
      = readFrom (finishValue (.array (done.reverse ++ items)) stack) following := by
  match items, hkeys with
  | [], _ =>
    rw [List.append_nil]
    exact readValue_cons rfl
  | item :: more, ⟨hitem, hmore⟩ =>
    rw [depthItems] at hdepth
    have hcomma : readStep (.list done :: stack) .separator .comma
        = some (.list done :: stack, .value) := rfl
    have hitems : done.reverse ++ item :: more = (item :: done).reverse ++ more := by simp
    rw [tokensItems, List.cons_append, List.append_assoc,
      readValue_cons hcomma, readFrom_mk,
      readValue_tokens item hitem (by rw [List.length_cons]; omega), finishValue, readFrom_mk,
      hitems]
    exact readValue_tokensItems more hmore (by omega)

theorem readValue_tokensMembers (members : List (String × Json))
    (hkeys : KeysDistinctMembers members) {stack : List OpenValue} {following : List JsonToken}
    {done : Members} {before : String} (hdistinct : (Entries.keys (done ++ members)).Nodup)
    (hdepth : depthMembers members + stack.length + 1 ≤ maxDepth) :
    readValue (.object done before :: stack) .separator
        (tokensMembers members ++ (.closeObject :: following))
      = readFrom (finishValue (.object (done ++ members)) stack) following := by
  match members, hkeys with
  | [], _ =>
    rw [List.append_nil]
    exact readValue_cons rfl
  | (key, value) :: more, ⟨hvalue, hmore⟩ =>
    rw [depthMembers] at hdepth
    have hcomma : readStep (.object done before :: stack) .separator .comma
        = some (stack, .key done) := rfl
    have hkey : readStep stack (.key done) (.scalar (.string key))
        = some (stack, .colon done key) := rfl
    have hnew : key ∉ Entries.keys done := by
      rw [Entries.keys, List.map_append, List.nodup_append] at hdistinct
      intro hmem
      exact hdistinct.2.2 key hmem key List.mem_cons_self rfl
    have hmembers : done ++ (key, value) :: more = done.insert key value ++ more := by
      rw [Entries.insert_of_notMem hnew, List.append_assoc]
      rfl
    rw [tokensMembers, List.cons_append, List.cons_append, List.cons_append, List.append_assoc,
      readValue_cons hcomma, readFrom_mk, readValue_cons hkey, readFrom_mk, readValue_colon,
      readValue_tokens value hvalue (by rw [List.length_cons]; omega), finishValue, readFrom_mk,
      hmembers]
    exact readValue_tokensMembers more hmore (hmembers ▸ hdistinct) (by omega)

end

end Run

/-! ## Values from texts -/

/-- **A value is read back from its text**: it is nested no deeper than reading goes, no key occurs
twice in an object, and its numbers are read back. -/
theorem parse?_text {value : Json} (hkeys : value.KeysDistinct) (hdepth : value.depth ≤ maxDepth)
    (hnumbers : value.NumbersReadBack) : parse? value.text = some value := by
  have hcut := cutInto_text value hnumbers endsNumber_nil .nil
  rw [List.append_nil, List.append_nil] at hcut
  have hread : readValue [] .value (value.tokens ++ []) = _ := readValue_tokens value hkeys hdepth
  rw [List.append_nil] at hread
  rw [parse?, jsonTokens?_of_cutInto hcut]
  exact hread

/-! ## Texts in lines -/

theorem newline_notMem_text_number {value : Number} (hread : value.ReadsBack) :
    '\n' ∉ value.text.toList := by
  obtain ⟨taken, htext, htaken⟩ := takesNumber_readNumber hread.readNumber
  rw [htext, List.append_nil]
  intro hmem
  have hno : ¬ ('\n'.isDigit = true ∨ '\n' ∈ ['-', '+', '.', 'e', 'E']) := by decide
  exact hno (htaken '\n' hmem)

mutual

/-- **No text of a value contains a line feed**, whatever its strings contain. -/
theorem newline_notMem_text (value : Json) (hnumbers : value.NumbersReadBack) :
    '\n' ∉ value.text.toList := by
  match value, hnumbers with
  | null, _ => decide
  | bool true, _ => decide
  | bool false, _ => decide
  | number _, hread => exact newline_notMem_text_number hread
  | string value, _ => exact newline_notMem_stringLiteral value
  | array [], _ => decide
  | array (item :: more), ⟨hitem, hmore⟩ =>
    rw [toList_text_array]
    simp [newline_notMem_text item hitem, newline_notMem_textItems more hmore]
  | object [], _ => decide
  | object ((key, value) :: more), ⟨hvalue, hmore⟩ =>
    rw [toList_text_object]
    simp [newline_notMem_stringLiteral key, newline_notMem_text value hvalue,
      newline_notMem_textMembers more hmore]

theorem newline_notMem_textItems (items : List Json) (hnumbers : NumbersReadBackItems items) :
    '\n' ∉ (textItems items).toList := by
  match items, hnumbers with
  | [], _ => exact List.not_mem_nil
  | item :: more, ⟨hitem, hmore⟩ =>
    rw [toList_textItems_cons]
    simp [newline_notMem_text item hitem, newline_notMem_textItems more hmore]

theorem newline_notMem_textMembers (members : List (String × Json))
    (hnumbers : NumbersReadBackMembers members) : '\n' ∉ (textMembers members).toList := by
  match members, hnumbers with
  | [], _ => exact List.not_mem_nil
  | (key, value) :: more, ⟨hvalue, hmore⟩ =>
    rw [toList_textMembers_cons]
    simp [newline_notMem_stringLiteral key, newline_notMem_text value hvalue,
      newline_notMem_textMembers more hmore]

end

theorem exists_cons_text (value : Json) (hnumbers : value.NumbersReadBack) :
    ∃ c more, value.text.toList = c :: more ∧ 32 < c.toNat ∧ c.toNat < 128 := by
  rcases value with _ | _ | value | value | ⟨_ | ⟨item, more⟩⟩ | ⟨_ | ⟨⟨key, value⟩, more⟩⟩
  case null => exact ⟨'n', _, rfl, by decide⟩
  case bool value =>
    rcases value with _ | _
    · exact ⟨'f', _, rfl, by decide⟩
    · exact ⟨'t', _, rfl, by decide⟩
  case number =>
    obtain ⟨c, more, htext, hc⟩ := exists_cons_of_readNumber hnumbers.readNumber
    refine ⟨c, more, htext, ?_⟩
    rcases hc with rfl | hdigit
    · decide
    · have hbounds : 48 ≤ c.toNat ∧ c.toNat ≤ 57 := Char.isDigit_iff_toNat.mp hdigit
      omega
  case string => exact ⟨'"', _, String.toList_ofList, by decide⟩
  case array.nil => exact ⟨'[', _, rfl, by decide⟩
  case array.cons => exact ⟨'[', _, toList_text_array item more, by decide⟩
  case object.nil => exact ⟨'\x7b', _, rfl, by decide⟩
  case object.cons => exact ⟨'\x7b', _, toList_text_object key value more, by decide⟩

end Json

end DocumentSchema
