import Mathlib.Data.List.Basic
import Mathlib.Data.List.Forall2
import Mathlib.Data.List.Nodup
import Mathlib.Data.List.TakeWhile
import SchemaDecl.Data.Json.Reader
import SchemaDecl.Proofs.Joining

/-!
# JSON that is written and read

What is written as JSON is read as the same data, as long as they are made of texts without
surrogates, truth values and nothing else but lists and mappings, and no key is repeated.
-/

namespace SchemaDecl.Data.Json

/-! ## Escapes -/

theorem hexDigit?_digitChar {digit : Nat} (small : digit < 16) :
    Markup.hexDigit? digit.digitChar = some digit := by
  have all : ∀ digit < 16, Markup.hexDigit? (Nat.digitChar digit) = some digit := by decide
  exact all digit small

theorem code?_digitChar {first second third fourth : Nat} (smallFirst : first < 16)
    (smallSecond : second < 16) (smallThird : third < 16) (smallFourth : fourth < 16) :
    Markup.code? 4 [first.digitChar, second.digitChar, third.digitChar, fourth.digitChar] =
      some (((first * 16 + second) * 16 + third) * 16 + fourth) := by
  change List.foldlM (fun code digit => (Markup.hexDigit? digit).map (code * 16 + ·)) 0 _ = _
  simp [hexDigit?_digitChar smallFirst, hexDigit?_digitChar smallSecond,
    hexDigit?_digitChar smallThird, hexDigit?_digitChar smallFourth]

/-- A code of sixteen binary digits is written in four hexadecimal ones. -/
theorem unit_eq {code : Nat} (small : code < 0x10000) :
    unit code =
      ['\\', 'u', (code / 4096).digitChar, (code / 256 % 16).digitChar,
        (code / 16 % 16).digitChar, (code % 16).digitChar] := by
  have step {value : Nat} (large : 16 ≤ value) :
      Nat.toDigits 16 value = Nat.toDigits 16 (value / 16) ++ [(value % 16).digitChar] :=
    Nat.toDigits_of_base_le (by decide) large
  have last {value : Nat} (less : value < 16) : Nat.toDigits 16 value = [value.digitChar] :=
    Nat.toDigits_of_lt_base less
  have zero : '0' = Nat.digitChar 0 := rfl
  rw [unit]
  by_cases one : code < 16
  · rw [last one, zero, show code / 4096 = 0 by omega, show code / 256 % 16 = 0 by omega,
      show code / 16 % 16 = 0 by omega, show code % 16 = code by omega]
    rfl
  by_cases two : code < 256
  · rw [step (by omega), last (by omega), zero, show code / 4096 = 0 by omega,
      show code / 256 % 16 = 0 by omega, show code / 16 % 16 = code / 16 by omega]
    rfl
  by_cases three : code < 4096
  · rw [step (by omega), step (by omega), last (by omega), zero, show code / 4096 = 0 by omega,
      show code / 16 / 16 = code / 256 by omega, show code / 256 % 16 = code / 256 by omega]
    rfl
  · rw [step (by omega), step (by omega), step (by omega), last (by omega),
      show code / 16 / 16 / 16 = code / 4096 by omega,
      show code / 16 / 16 = code / 256 by omega]
    rfl

/-- An escape is read as its code point. -/
theorem pointsFrom_unit {code : Nat} {point : CodePoint} (small : code < 0x10000)
    (stands : CodePoint.ofCode? code = some point)
    (rest : List Char) :
    pointsFrom (unit code ++ rest) =
      (pointsFrom rest).map fun read => (point :: read.1, read.2) := by
  have read : Markup.code? 4 [(code / 4096).digitChar, (code / 256 % 16).digitChar,
      (code / 16 % 16).digitChar, (code % 16).digitChar] = some code := by
    rw [code?_digitChar (by omega) (by omega) (by omega) (by omega)]
    congr 1
    omega
  rw [unit_eq small]
  simp only [List.cons_append, List.nil_append]
  rw [pointsFrom, read]
  simp only [Option.bind_eq_bind, Option.bind_some, stands]
  cases pointsFrom rest <;> rfl

/-- The code points that a character is written as: itself, or the halves of a pair. -/
def halves (char : Char) : List CodePoint :=
  if char.toNat < 0x10000 then [.character char]
  else
    [0xd800 + (char.toNat - 0x10000) / 0x400,
     0xd800 + (0x400 + (char.toNat - 0x10000) % 0x400)].filterMap CodePoint.ofCode?

theorem ofCode?_toNat (char : Char) : CodePoint.ofCode? char.toNat = some (.character char) := by
  have valid : char.toNat.isValidChar := char.valid
  rw [CodePoint.ofCode?, if_pos valid, Char.ofNat_toNat]

theorem ofCode?_surrogate {offset : Nat} (small : offset < 0x800) :
    CodePoint.ofCode? (0xd800 + offset) = some (.surrogate (Fin.ofNat 0x800 offset)) := by
  have invalid : ¬(0xd800 + offset).isValidChar := by
    unfold Nat.isValidChar
    omega
  rw [CodePoint.ofCode?, if_neg invalid, CodePoint.firstSurrogate, CodePoint.codeLimit,
    if_pos ⟨by omega, by omega⟩, Nat.add_sub_cancel_left]

theorem char_lt (char : Char) : char.toNat < 0x110000 := by
  have valid : char.toNat.isValidChar := char.valid
  unfold Nat.isValidChar at valid
  omega

theorem halves_of_lt {char : Char} (small : char.toNat < 0x10000) :
    halves char = [.character char] :=
  if_pos small

theorem halves_of_not_lt {char : Char} (large : ¬char.toNat < 0x10000) :
    halves char =
      [.surrogate (Fin.ofNat 0x800 ((char.toNat - 0x10000) / 0x400)),
       .surrogate (Fin.ofNat 0x800 (0x400 + (char.toNat - 0x10000) % 0x400))] := by
  have bound := char_lt char
  rw [halves, if_neg large, List.filterMap_cons_some (ofCode?_surrogate (by omega)),
    List.filterMap_cons_some (ofCode?_surrogate (by omega)), List.filterMap_nil]

/-- A letter after a backslash is read as the character that it stands for. -/
theorem pointsFrom_escape {char letter : Char} (stands : escape? letter = some char)
    (small : char.toNat < 0x10000)
    (rest : List Char) :
    pointsFrom ('\\' :: letter :: rest) =
      (pointsFrom rest).map fun read => (halves char ++ read.1, read.2) := by
  have notUnit : letter ≠ 'u' := by
    rintro rfl
    cases stands
  rw [pointsFrom]
  · rw [stands, halves_of_lt small]
    cases pointsFrom rest <;> rfl
  · rintro _ _ _ _ _ same
    exact absurd same notUnit

/-- A character that needs no escape is read as itself. -/
theorem pointsFrom_plain {char : Char} (notQuote : char ≠ '"') (notBackslash : char ≠ '\\')
    (printed : 0x20 ≤ char.toNat)
    (small : char.toNat < 0x10000)
    (rest : List Char) :
    pointsFrom (char :: rest) =
      (pointsFrom rest).map fun read => (halves char ++ read.1, read.2) := by
  rw [pointsFrom]
  · rw [if_neg (by omega), halves_of_lt small]
    cases pointsFrom rest <;> rfl
  · exact notQuote
  · exact fun _ _ _ _ _ same => absurd same notBackslash
  · exact fun _ _ same => absurd same notBackslash

/-- What is written for a character is read as the code points that it is written as. -/
theorem pointsFrom_character (char : Char) (rest : List Char) :
    pointsFrom (character char ++ rest) =
      (pointsFrom rest).map fun read => (halves char ++ read.1, read.2) := by
  unfold character
  split
  case h_8 notQuote notBackslash _ _ _ _ _ =>
    dsimp only
    split_ifs with plain small
    · exact pointsFrom_plain notQuote notBackslash plain.1 (by omega) rest
    · rw [pointsFrom_unit small (ofCode?_toNat char), halves_of_lt small]
      rfl
    · have bound := char_lt char
      rw [List.append_assoc, pointsFrom_unit (by omega) (ofCode?_surrogate (by omega)),
        show 0xdc00 = 0xd800 + 0x400 by rfl, Nat.add_assoc,
        pointsFrom_unit (by omega) (ofCode?_surrogate (by omega)), halves_of_not_lt small]
      cases pointsFrom rest <;> rfl
  all_goals exact pointsFrom_escape rfl (by decide) rest

/-! ## Texts -/

/-- A second half stays as it is until a first half is put before it. -/
theorem joinPoint_second {offset : Fin 0x800} (second : ¬offset.val < 0x400)
    (joined : List CodePoint) :
    joinPoint (.surrogate offset) joined = .surrogate offset :: joined := by
  unfold joinPoint
  split
  · rename_i same
    cases same
    rw [if_neg fun pair => second pair.1]
  · rfl

/-- The halves of a character are put together again. -/
theorem foldr_joinPoint_halves (char : Char) (joined : List CodePoint) :
    (halves char).foldr joinPoint joined = .character char :: joined := by
  by_cases small : char.toNat < 0x10000
  · rw [halves_of_lt small]
    rfl
  · have bound := char_lt char
    let first : Fin 0x800 := Fin.ofNat 0x800 ((char.toNat - 0x10000) / 0x400)
    let second : Fin 0x800 := Fin.ofNat 0x800 (0x400 + (char.toNat - 0x10000) % 0x400)
    have firstValue : first.val = (char.toNat - 0x10000) / 0x400 := Nat.mod_eq_of_lt (by omega)
    have secondValue : second.val = 0x400 + (char.toNat - 0x10000) % 0x400 :=
      Nat.mod_eq_of_lt (by omega)
    have isFirst : first.val < 0x400 := by omega
    have isSecond : 0x400 ≤ second.val := by omega
    have code : 0x10000 + first.val * 0x400 + (second.val - 0x400) = char.toNat := by
      rw [firstValue, secondValue]
      omega
    rw [halves_of_not_lt small]
    change joinPoint (.surrogate first) (joinPoint (.surrogate second) joined) = _
    rw [joinPoint_second (Nat.not_lt.2 isSecond), joinPoint, if_pos ⟨isFirst, isSecond⟩, code,
      Char.ofNat_toNat]

theorem pointsFrom_flatMap_character (chars rest : List Char) :
    pointsFrom (chars.flatMap character ++ '"' :: rest) = some (chars.flatMap halves, rest) := by
  induction chars with
  | nil => rfl
  | cons char later inductionHypothesis =>
      rw [List.flatMap_cons, List.append_assoc, pointsFrom_character, inductionHypothesis,
        List.flatMap_cons]
      rfl

theorem joinPoints_flatMap_halves (chars : List Char) :
    joinPoints (chars.flatMap halves) = chars.map .character := by
  induction chars with
  | nil => rfl
  | cons char later inductionHypothesis =>
      rw [List.flatMap_cons, joinPoints, List.foldr_append, ← joinPoints, inductionHypothesis,
        foldr_joinPoint_halves, List.map_cons]

/-- A quoted text is read as the text. -/
theorem quotedFrom_points (text : String) (rest : List Char) :
    quotedFrom ((CodeText.ofString text).points.flatMap point ++ '"' :: rest) =
      some (.ofString text, rest) := by
  have written : (CodeText.ofString text).points.flatMap point =
      text.toList.flatMap character := by
    rw [CodeText.points_ofString, List.flatMap_map]
    rfl
  rw [written, quotedFrom, pointsFrom_flatMap_character]
  change some (CodeText.mk (joinPoints _), rest) = _
  rw [joinPoints_flatMap_halves]
  rfl

/-! ## Blanks and brackets -/

theorem skip_of_not_isSpace {char : Char} (solid : isSpace char = false) (rest : List Char) :
    skip (char :: rest) = char :: rest := by
  rw [skip, List.dropWhile_cons_of_neg (by simp [solid])]

/-- The end of a line and the margin of the next are blanks. -/
theorem skip_lineEnd (level : Nat) (rest : List Char) :
    skip ('\n' :: (margin level).toList ++ rest) = skip rest := by
  have blank : ∀ char ∈ '\n' :: (margin level).toList, isSpace char = true := by
    intro char member
    rw [margin, String.toList_ofList] at member
    rcases List.mem_cons.1 member with rfl | inMargin
    · rfl
    · rw [List.eq_of_mem_replicate inMargin]
      rfl
  exact List.dropWhile_append_of_pos blank

/-- A part of a list or a mapping begins with a sign of its own. -/
def Begun (closing : Char) (line : List Char) : Prop :=
  ∃ sign rest, line = sign :: rest ∧ isSpace sign = false ∧ sign ≠ closing

/-- The lines of the parts after the first, each with the comma before it. -/
def laterLines (level : Nat) (lines : List (List Char)) : List Char :=
  lines.flatMap fun line => ',' :: '\n' :: (margin level).toList ++ line

theorem toList_block_cons (level : Nat) (opening closing first : String) (lines : List String) :
    (block level opening closing (first :: lines)).toList =
      opening.toList ++ ('\n' :: (margin (level + 1)).toList ++
        (first.toList ++ (laterLines (level + 1) (lines.map String.toList) ++
          ('\n' :: (margin level).toList ++ closing.toList)))) := by
  have lineEnd : "\n".toList = ['\n'] := rfl
  have comma : ",\n".toList = [',', '\n'] := rfl
  rw [block, if_neg (List.cons_ne_nil _ _)]
  simp only [String.toList_append, String.toList_intercalate, List.map_cons,
    Joining.intercalate_cons, laterLines, List.flatMap_map, List.map_map, Function.comp_apply,
    List.append_assoc, lineEnd, comma, List.cons_append, List.nil_append]

section Parts

variable {α : Type} {part : List Char → Option (α × List Char)} {closing : Char} {room : Nat}

theorem partsFrom_of_closing {text rest after : List Char} {first : α}
    (read : part text = some (first, rest))
    (closed : skip rest = closing :: after) :
    partsFrom part closing (room + 1) text = some ([first], after) := by
  simp only [partsFrom, read, Option.bind_eq_bind, Option.bind_some, closed]
  rfl

theorem partsFrom_of_comma {text rest after : List Char} {first : α} (notComma : closing ≠ ',')
    (read : part text = some (first, rest))
    (more : skip rest = ',' :: after) :
    partsFrom part closing (room + 1) text =
      (partsFrom part closing room (skip after)).map fun read => (first :: read.1, read.2) := by
  simp only [partsFrom, read, Option.bind_eq_bind, Option.bind_some, more, if_neg notComma.symm]
  cases partsFrom part closing room (skip after) <;> rfl

/-- Parts that can be read one by one are read up to the closing sign. -/
theorem partsFrom_laterLines {level outer : Nat} {first : List Char} {value : α}
    {lines : List (List Char)} {values : List α}
    (solid : isSpace closing = false)
    (notComma : closing ≠ ',')
    (readFirst : ∀ rest, part (first ++ rest) = some (value, rest))
    (readLater : List.Forall₂
      (fun line value => Begun closing line ∧ ∀ rest, part (line ++ rest) = some (value, rest))
      lines values)
    (enough : lines.length < room)
    (rest : List Char) :
    partsFrom part closing room (first ++ (laterLines level lines ++
        ('\n' :: (margin outer).toList ++ closing :: rest))) =
      some (value :: values, rest) := by
  induction readLater generalizing first value room with
  | nil =>
      obtain ⟨room, rfl⟩ := Nat.exists_eq_succ_of_ne_zero (Nat.ne_of_gt enough)
      refine partsFrom_of_closing (readFirst _) ?_
      change skip ('\n' :: (margin outer).toList ++ closing :: rest) = _
      rw [skip_lineEnd, skip_of_not_isSpace solid]
  | @cons line later lines values readLine _ inductionHypothesis =>
      obtain ⟨room, rfl⟩ := Nat.exists_eq_succ_of_ne_zero (Nat.ne_of_gt (Nat.zero_lt_of_lt enough))
      obtain ⟨⟨sign, tail, rfl, solidSign, -⟩, readLine⟩ := readLine
      have readRest := inductionHypothesis readLine (Nat.lt_of_succ_lt_succ enough)
      have split (after : List Char) : laterLines level ((sign :: tail) :: lines) ++ after =
          ',' :: ('\n' :: (margin level).toList ++
            (sign :: tail ++ (laterLines level lines ++ after))) := by
        simp [laterLines]
      rw [split, partsFrom_of_comma notComma (readFirst _) (skip_of_not_isSpace rfl _),
        skip_lineEnd, List.cons_append, skip_of_not_isSpace solidSign, ← List.cons_append, readRest]
      rfl

theorem length_laterLines (level : Nat) (lines : List (List Char)) :
    lines.length ≤ (laterLines level lines).length ∧
      ∀ line ∈ lines, line.length ≤ (laterLines level lines).length := by
  induction lines with
  | nil => exact ⟨Nat.le_refl _, nofun⟩
  | cons first rest inductionHypothesis =>
      have split : (laterLines level (first :: rest)).length =
          (margin level).toList.length + first.length + 2 + (laterLines level rest).length := by
        simp [laterLines]
        omega
      rw [split]
      refine ⟨?_, List.forall_mem_cons.2 ⟨by omega, fun line later => ?_⟩⟩
      · rw [List.length_cons]
        omega
      · have inRest := inductionHypothesis.2 line later
        omega

/-- The text of some lines between brackets, without the opening one. -/
def blockRest (level : Nat) (closing : Char) (first : List Char) (lines : List (List Char)) :
    List Char :=
  '\n' :: (margin (level + 1)).toList ++
    (first ++ (laterLines (level + 1) lines ++ ('\n' :: (margin level).toList ++ [closing])))

/-- There are more characters between the brackets than there are lines, and more than in any of
them. -/
theorem length_blockRest (closing : Char) (level : Nat) (first : List Char)
    (lines : List (List Char)) :
    lines.length < (blockRest level closing first lines).length ∧
      first.length < (blockRest level closing first lines).length ∧
      ∀ line ∈ lines, line.length < (blockRest level closing first lines).length := by
  have later := length_laterLines (level + 1) lines
  have whole : (laterLines (level + 1) lines).length + first.length <
      (blockRest level closing first lines).length := by
    simp [blockRest]
    omega
  refine ⟨by omega, by omega, fun line member => ?_⟩
  have within := later.2 line member
  omega

/-- Parts between brackets are read together if each of them is read where there is room for it. -/
theorem bracketedFrom_blockRest {β : Type} {level : Nat} {line : β → List Char} {value : β → α}
    {first : β} {later : List β}
    (solid : isSpace closing = false)
    (notComma : closing ≠ ',')
    (begun : ∀ element ∈ first :: later, Begun closing (line element))
    (read : ∀ element ∈ first :: later, (line element).length ≤ room →
      ∀ rest, part (line element ++ rest) = some (value element, rest))
    (enough : (blockRest level closing (line first) (later.map line)).length ≤ room)
    (rest : List Char) :
    bracketedFrom part closing room
        (blockRest level closing (line first) (later.map line) ++ rest) =
      some ((first :: later).map value, rest) := by
  obtain ⟨fewer, firstFits, laterFit⟩ :=
    length_blockRest closing level (line first) (later.map line)
  have readFirst := read first List.mem_cons_self (by omega)
  have readLater : List.Forall₂
      (fun line value => Begun closing line ∧ ∀ rest, part (line ++ rest) = some (value, rest))
      (later.map line) (later.map value) := by
    rw [List.forall₂_map_left_iff, List.forall₂_map_right_iff, List.forall₂_same]
    intro element member
    have fits := laterFit _ (List.mem_map_of_mem member)
    have inAll := List.mem_cons_of_mem first member
    exact ⟨begun element inAll, read element inAll (by omega)⟩
  have readAll : partsFrom part closing room (line first ++ (laterLines (level + 1)
      (later.map line) ++ ('\n' :: (margin level).toList ++ closing :: rest))) =
      some (value first :: later.map value, rest) :=
    partsFrom_laterLines solid notComma readFirst readLater (by omega) rest
  obtain ⟨sign, tail, begins, solidSign, opens⟩ := begun first List.mem_cons_self
  have skipped : skip (blockRest level closing (line first) (later.map line) ++ rest) =
      line first ++ (laterLines (level + 1) (later.map line) ++
        ('\n' :: (margin level).toList ++ closing :: rest)) := by
    rw [blockRest, List.append_assoc, skip_lineEnd, begins]
    simp only [List.cons_append, List.append_assoc, List.nil_append,
      skip_of_not_isSpace solidSign]
  rw [bracketedFrom, skipped, List.map_cons, ← readAll, begins]
  exact if_neg opens

end Parts

/-! ## Data that are read as they are written -/

/-- Data of texts without surrogates and truth values, in lists and in mappings without repeated
keys. -/
inductive Portable : Data → Prop
  | null : Portable .null
  | boolean (value : Bool) : Portable (.boolean value)
  | text (value : String) : Portable (.text value)
  | list {elements : List Data} (each : ∀ element ∈ elements, Portable element) :
      Portable (.list elements)
  | mapping {fields : List (String × Data)}
      (distinct : (fields.map Prod.fst).Nodup)
      (each : ∀ field ∈ fields, Portable field.2) :
      Portable (.ofFields fields)

/-- An entry with a key of its own is put behind the others. -/
theorem put_of_forall_ne {held : List (CodeText × Data)} {entry : CodeText × Data}
    (absent : ∀ other ∈ held, other.1 ≠ entry.1) :
    put held entry = held ++ [entry] := by
  induction held with
  | nil => rfl
  | cons first later inductionHypothesis =>
      rw [List.forall_mem_cons] at absent
      rw [put, if_neg absent.1, inductionHypothesis absent.2, List.cons_append]

/-- Entries without repeated keys stay as they are. -/
theorem foldl_put {held entries : List (CodeText × Data)}
    (distinct : ((held ++ entries).map Prod.fst).Nodup) :
    entries.foldl put held = held ++ entries := by
  induction entries generalizing held with
  | nil => rw [List.foldl_nil, List.append_nil]
  | cons entry rest inductionHypothesis =>
      have absent : ∀ other ∈ held, other.1 ≠ entry.1 := by
        rw [List.map_append, List.nodup_append] at distinct
        exact fun other member =>
          distinct.2.2 _ (List.mem_map_of_mem member) _ List.mem_cons_self
      rw [List.foldl_cons, put_of_forall_ne absent, inductionHypothesis (by simpa using distinct)]
      simp

theorem writeElements_eq_map (level : Nat) (elements : List Data) :
    writeElements level elements = elements.map (write level) := by
  induction elements with
  | nil => rfl
  | cons first rest inductionHypothesis => rw [writeElements, inductionHypothesis, List.map_cons]

theorem writeEntries_eq_map (level : Nat) (entries : List (Data × Data)) :
    writeEntries level entries =
      entries.map fun entry => key entry.1 ++ ": " ++ write level entry.2 := by
  induction entries with
  | nil => rfl
  | cons first rest inductionHypothesis =>
      rw [writeEntries, inductionHypothesis, List.map_cons, writeEntry]

theorem toList_write_null (level : Nat) : (write level .null).toList = ['n', 'u', 'l', 'l'] := by
  rw [write]
  rfl

theorem toList_write_boolean (level : Nat) (value : Bool) :
    (write level (.boolean value)).toList =
      if value then ['t', 'r', 'u', 'e'] else ['f', 'a', 'l', 's', 'e'] := by
  rw [write]
  cases value <;> rfl

theorem toList_write_text (level : Nat) (value : CodeText) :
    (write level (.text value)).toList = '"' :: (value.points.flatMap point ++ ['"']) := by
  rw [write, quoted, String.toList_ofList]
  rfl

theorem toList_write_list_nil (level : Nat) : (write level (.list [])).toList = ['[', ']'] := by
  rw [write, writeElements, block, if_pos rfl]
  rfl

theorem toList_write_list_cons (level : Nat) (first : Data) (rest : List Data) :
    (write level (.list (first :: rest))).toList =
      '[' :: blockRest level ']' (write (level + 1) first).toList
        (rest.map fun element => (write (level + 1) element).toList) := by
  rw [write, writeElements, writeElements_eq_map, toList_block_cons, List.map_map]
  rfl

theorem toList_write_mapping_nil (level : Nat) :
    (write level (.ofFields [])).toList = ['\x7b', '\x7d'] := by
  rw [ofFields, List.map_nil, write, writeEntries, block, if_pos rfl]
  rfl

/-- An entry as it is written. -/
def entryText (level : Nat) (field : String × Data) : List Char :=
  '"' :: ((CodeText.ofString field.1).points.flatMap point ++
    '"' :: ':' :: ' ' :: (write level field.2).toList)

theorem toList_write_mapping_cons (level : Nat) (first : String × Data)
    (rest : List (String × Data)) :
    (write level (.ofFields (first :: rest))).toList =
      '\x7b' :: blockRest level '\x7d' (entryText (level + 1) first)
        (rest.map (entryText (level + 1))) := by
  have text (field : String × Data) :
      (key (.text (.ofString field.1)) ++ ": " ++ write (level + 1) field.2).toList =
        entryText (level + 1) field := by
    have colon : ": ".toList = [':', ' '] := rfl
    rw [key, String.toList_append, String.toList_append, quoted, String.toList_ofList, colon,
      entryText]
    simp only [List.cons_append, List.append_assoc, List.nil_append]
  rw [ofFields, List.map_cons, write, writeEntries_eq_map, List.map_cons, toList_block_cons,
    List.map_map, List.map_map, text]
  have texts : rest.map ((String.toList ∘ fun entry => key entry.1 ++ ": " ++
      write (level + 1) entry.2) ∘ fun field => (Data.text (.ofString field.1), field.2)) =
      rest.map (entryText (level + 1)) :=
    List.map_congr_left fun field _ => text field
  rw [texts]
  rfl

/-- A value begins with a sign that neither is blank nor closes anything. -/
theorem begun_write {data : Data} (portable : Portable data) (level : Nat) :
    Begun ']' (write level data).toList := by
  cases portable with
  | null => exact ⟨_, _, toList_write_null level, rfl, by decide⟩
  | boolean value =>
      cases value
      · exact ⟨_, _, toList_write_boolean level false, rfl, by decide⟩
      · exact ⟨_, _, toList_write_boolean level true, rfl, by decide⟩
  | text value => exact ⟨_, _, toList_write_text level value, rfl, by decide⟩
  | @list elements _ =>
      cases elements with
      | nil => exact ⟨_, _, toList_write_list_nil level, rfl, by decide⟩
      | cons first rest => exact ⟨_, _, toList_write_list_cons level first rest, rfl, by decide⟩
  | @mapping fields _ _ =>
      cases fields with
      | nil => exact ⟨_, _, toList_write_mapping_nil level, rfl, by decide⟩
      | cons first rest => exact ⟨_, _, toList_write_mapping_cons level first rest, rfl, by decide⟩

theorem begun_entryText (level : Nat) (field : String × Data) :
    Begun '\x7d' (entryText level field) :=
  ⟨_, _, rfl, rfl, by decide⟩

theorem length_write_le_entryText (level : Nat) (field : String × Data) :
    (write level field.2).toList.length ≤ (entryText level field).length := by
  simp only [entryText, List.length_cons, List.length_append]
  omega

theorem ofFields_eq_ofEntries {fields : List (String × Data)}
    (distinct : (fields.map Prod.fst).Nodup) :
    ofFields fields = ofEntries (fields.map fun field => (.ofString field.1, field.2)) := by
  let converted (field : String × Data) : CodeText × Data := (.ofString field.1, field.2)
  have keys : (([] ++ fields.map converted).map Prod.fst) =
      (fields.map Prod.fst).map CodeText.ofString := by
    rw [List.nil_append, List.map_map, List.map_map]
    rfl
  have distinctKeys : (([] ++ fields.map converted).map Prod.fst).Nodup :=
    keys ▸ List.Nodup.map (fun _ _ => CodeText.ofString_injective) distinct
  rw [ofEntries, foldl_put distinctKeys, List.nil_append, List.map_map]
  rfl

/-- A key and the value after it are read as an entry. -/
theorem entryFrom_entryText {value : List Char → Option (Data × List Char)}
    {field : String × Data} {level : Nat}
    (portable : Portable field.2)
    (read : ∀ rest, value ((write level field.2).toList ++ rest) = some (field.2, rest))
    (rest : List Char) :
    entryFrom value (entryText level field ++ rest) =
      some ((.ofString field.1, field.2), rest) := by
  obtain ⟨sign, tail, begins, solid, -⟩ := begun_write portable level
  have split : entryText level field ++ rest =
      '"' :: ((CodeText.ofString field.1).points.flatMap point ++
        '"' :: ':' :: ' ' :: ((write level field.2).toList ++ rest)) := by
    simp only [entryText, List.cons_append, List.append_assoc]
  have blank : skip (' ' :: ((write level field.2).toList ++ rest)) =
      (write level field.2).toList ++ rest := by
    rw [begins, List.cons_append]
    exact skip_of_not_isSpace solid _
  have colon : isSpace ':' = false := rfl
  have keyRead : keyFrom (entryText level field ++ rest) =
      some (.ofString field.1, (write level field.2).toList ++ rest) := by
    simp only [split, keyFrom, quotedFrom_points, Option.bind_eq_bind, Option.bind_some,
      skip_of_not_isSpace colon, blank]
    rfl
  simp only [entryFrom, keyRead, Option.bind_eq_bind, Option.bind_some, read]
  rfl

/-- What is written for the data at any level is read as the data, whatever follows it, if there is
room for all characters. -/
def ReadBack (data : Data) : Prop :=
  ∀ level room, (write level data).toList.length ≤ room →
    ∀ rest, valueFrom room ((write level data).toList ++ rest) = some (data, rest)

theorem readBack_null : ReadBack .null := by
  intro level room enough rest
  rw [toList_write_null] at enough ⊢
  obtain ⟨room, rfl⟩ := Nat.exists_eq_add_of_le' enough
  rfl

theorem readBack_boolean (value : Bool) : ReadBack (.boolean value) := by
  intro level room enough rest
  rw [toList_write_boolean] at enough ⊢
  cases value
  · obtain ⟨room, rfl⟩ := Nat.exists_eq_add_of_le' enough
    rfl
  · obtain ⟨room, rfl⟩ := Nat.exists_eq_add_of_le' enough
    rfl

theorem readBack_text (value : String) : ReadBack (.text value) := by
  intro level room enough rest
  rw [toList_write_text] at enough ⊢
  obtain ⟨room, rfl⟩ := Nat.exists_eq_add_of_le' enough
  change (quotedFrom (((CodeText.ofString value).points.flatMap point ++ ['"']) ++ rest)).map
    (fun read => (Data.text read.1, read.2)) = _
  rw [List.append_assoc]
  change (quotedFrom ((CodeText.ofString value).points.flatMap point ++ '"' :: rest)).map _ = _
  rw [quotedFrom_points]
  rfl

theorem readBack_list {elements : List Data} (portable : ∀ element ∈ elements, Portable element)
    (each : ∀ element ∈ elements, ReadBack element) :
    ReadBack (.list elements) := by
  intro level room enough rest
  cases elements with
  | nil =>
      rw [toList_write_list_nil] at enough ⊢
      obtain ⟨room, rfl⟩ := Nat.exists_eq_add_of_le' enough
      rfl
  | cons first later =>
      rw [toList_write_list_cons, List.length_cons] at enough
      obtain ⟨room, rfl⟩ := Nat.exists_eq_add_of_le' (Nat.le_trans (Nat.le_add_left 1 _) enough)
      have readElements : bracketedFrom (valueFrom room) ']' room
          (blockRest level ']' (write (level + 1) first).toList
            (later.map fun element => (write (level + 1) element).toList) ++ rest) =
          some ((first :: later).map id, rest) :=
        bracketedFrom_blockRest rfl (by decide)
          (fun element member => begun_write (portable element member) (level + 1))
          (fun element member => each element member (level + 1) room)
          (Nat.le_of_succ_le_succ enough) rest
      rw [toList_write_list_cons, List.cons_append]
      change (bracketedFrom (valueFrom room) ']' room _).map _ = _
      rw [readElements, List.map_id]
      rfl

theorem readBack_ofFields {fields : List (String × Data)}
    (distinct : (fields.map Prod.fst).Nodup)
    (portable : ∀ field ∈ fields, Portable field.2)
    (each : ∀ field ∈ fields, ReadBack field.2) :
    ReadBack (.ofFields fields) := by
  intro level room enough rest
  cases fields with
  | nil =>
      rw [toList_write_mapping_nil] at enough ⊢
      obtain ⟨room, rfl⟩ := Nat.exists_eq_add_of_le' enough
      rfl
  | cons first later =>
      rw [toList_write_mapping_cons, List.length_cons] at enough
      obtain ⟨room, rfl⟩ := Nat.exists_eq_add_of_le' (Nat.le_trans (Nat.le_add_left 1 _) enough)
      have readFields : bracketedFrom (entryFrom (valueFrom room)) '\x7d' room
          (blockRest level '\x7d' (entryText (level + 1) first)
            (later.map (entryText (level + 1))) ++ rest) =
          some ((first :: later).map fun field => (CodeText.ofString field.1, field.2), rest) :=
        bracketedFrom_blockRest rfl (by decide)
          (fun field _ => begun_entryText (level + 1) field)
          (fun field member fits => entryFrom_entryText (portable field member)
            (each field member (level + 1) room
              (Nat.le_trans (length_write_le_entryText _ _) fits)))
          (Nat.le_of_succ_le_succ enough) rest
      rw [toList_write_mapping_cons, List.cons_append]
      change (bracketedFrom (entryFrom (valueFrom room)) '\x7d' room _).map _ = _
      rw [readFields, ofFields_eq_ofEntries distinct]
      rfl

theorem Portable.readBack {data : Data} (portable : Portable data) : ReadBack data := by
  induction portable with
  | null => exact readBack_null
  | boolean value => exact readBack_boolean value
  | text value => exact readBack_text value
  | list each inductionHypothesis => exact readBack_list each inductionHypothesis
  | mapping distinct each inductionHypothesis =>
      exact readBack_ofFields distinct each inductionHypothesis

/-- JSON that is written is read as the data that it was written for, with blanks after it or
without. -/
theorem ofJson?_toJson {data : Data} (portable : Portable data) {ending : String}
    (blank : ∀ char ∈ ending.toList, isSpace char = true) :
    ofJson? (data.toJson ++ ending) = some data := by
  obtain ⟨sign, tail, begins, solid, -⟩ := begun_write portable 0
  have enough : (write 0 data).toList.length ≤ ((write 0 data).toList ++ ending.toList).length := by
    rw [List.length_append]
    exact Nat.le_add_right _ _
  have read := portable.readBack 0 _ enough ending.toList
  have atStart : skip ((write 0 data).toList ++ ending.toList) =
      (write 0 data).toList ++ ending.toList := by
    rw [begins, List.cons_append, skip_of_not_isSpace solid]
  have atEnd : skip ending.toList = [] := List.dropWhile_eq_nil_iff.2 blank
  rw [ofJson?, toJson, String.toList_append, atStart, read]
  exact if_pos atEnd

end SchemaDecl.Data.Json
