import ComplyTime.Core.Json

/-!
# The text of plain documents

A document is plain when it has no numbers.  Its compact text is the canonical
one of JSON: no white space, UTF-8, and in strings only quotes, backslashes and
control characters are escaped.  The parser below reads such a text back.
-/

namespace ComplyTime.JsonText

open Json

mutual

def plain : Json → Bool
  | .null => true
  | .bool _ => true
  | .num _ => false
  | .str _ => true
  | .arr items => plainItems items
  | .obj members => plainMembers members

def plainItems : List Json → Bool
  | [] => true
  | item :: items => plain item && plainItems items

def plainMembers : Members → Bool
  | [] => true
  | (_, value) :: members => plain value && plainMembers members

end

/-! ## Compact text -/

/-- The characters with an escape sequence of two characters. -/
def escapes : List (Char × Char) :=
  [('"', '"'), ('\\', '\\'), ('\x08', 'b'), ('\t', 't'), ('\n', 'n'),
   ('\x0c', 'f'), ('\r', 'r')]

def escape (character : Char) : List Char :=
  match escapes.lookup character with
  | some letter => ['\\', letter]
  | none =>
    if character.toNat < 32 then
      ['\\', 'u', '0', '0', Nat.digitChar (character.toNat / 16),
        Nat.digitChar (character.toNat % 16)]
    else [character]

/-- The text of a string up to its closing quote. -/
def quoted (content : String) : List Char :=
  content.toList.flatMap escape ++ ['"']

mutual

/-- Compact text of a document without numbers. -/
def compact : Json → List Char
  | .null => "null".toList
  | .bool value => if value then "true".toList else "false".toList
  | .num _ => ['0']
  | .str content => '"' :: quoted content
  | .arr items => '[' :: compactItems [] items
  | .obj members => '{' :: compactMembers [] members

def compactItems (separator : List Char) : List Json → List Char
  | [] => [']']
  | item :: items => separator ++ (compact item ++ compactItems [','] items)

def compactMembers (separator : List Char) : Members → List Char
  | [] => ['}']
  | (key, value) :: members =>
    separator ++ '"' :: (quoted key ++ ':' ::
      (compact value ++ compactMembers [','] members))

end

def textBytes (value : Json) : List UInt8 :=
  (compact value).flatMap String.utf8EncodeChar

/-! ## Parsing -/

/-- The characters of a UTF-8 text. -/
def decodeText : List UInt8 → Option (List Char)
  | [] => some []
  | first :: rest =>
    if first.toNat < 128 then
      (decodeText rest).map (Char.ofNat first.toNat :: ·)
    else match rest with
    | [] => none
    | second :: rest =>
      let code := first.toNat * 64 + second.toNat - 128
      if first.toNat < 224 then
        (decodeText rest).map (Char.ofNat (code - 192 * 64) :: ·)
      else match rest with
      | [] => none
      | third :: rest =>
        let code := code * 64 + third.toNat - 128
        if first.toNat < 240 then
          (decodeText rest).map (Char.ofNat (code - 224 * 4096) :: ·)
        else match rest with
        | [] => none
        | fourth :: rest =>
          let code := code * 64 + fourth.toNat - 128
          (decodeText rest).map (Char.ofNat (code - 240 * 262144) :: ·)

def hexValue (character : Char) : Option ℕ :=
  (List.range 16).find? fun value => Nat.digitChar value == character

/-- One character of a string, escaped or not. -/
def readCharacter : List Char → Option (Char × List Char)
  | '\\' :: 'u' :: '0' :: '0' :: high :: low :: rest => do
    let high ← hexValue high
    let low ← hexValue low
    some (Char.ofNat (16 * high + low), rest)
  | '\\' :: letter :: rest =>
    (escapes.find? fun entry => entry.2 == letter).map
      fun entry => (entry.1, rest)
  | character :: rest =>
    if character.toNat < 32 then none else some (character, rest)
  | [] => none

/-- A string after its opening quote. -/
def parseString : ℕ → List Char → Option (List Char × List Char)
  | 0, _ => none
  | fuel + 1, text =>
    if text.head? = some '"' then some ([], text.tail)
    else do
      let (character, next) ← readCharacter text
      let (content, rest) ← parseString fuel next
      some (character :: content, rest)

/-- The text behind a fixed piece of text. -/
def skip (piece text : List Char) : Option (List Char) :=
  if piece.isPrefixOf text then some (text.drop piece.length) else none

mutual

def parseValue : ℕ → List Char → Option (Json × List Char)
  | 0, _ => none
  | fuel + 1, text =>
    match text with
    | '"' :: rest =>
      (parseString fuel rest).map fun parsed =>
        (.str (String.ofList parsed.1), parsed.2)
    | '[' :: rest =>
      (parseItems fuel [] rest).map fun parsed => (.arr parsed.1, parsed.2)
    | '{' :: rest =>
      (parseMembers fuel [] rest).map fun parsed => (.obj parsed.1, parsed.2)
    | 'n' :: 'u' :: 'l' :: 'l' :: rest => some (.null, rest)
    | 't' :: 'r' :: 'u' :: 'e' :: rest => some (.bool true, rest)
    | 'f' :: 'a' :: 'l' :: 's' :: 'e' :: rest => some (.bool false, rest)
    | _ => none

def parseItems : ℕ → List Char → List Char →
    Option (List Json × List Char)
  | 0, _, _ => none
  | fuel + 1, separator, text =>
    if text.head? = some ']' then some ([], text.tail)
    else do
      let start ← skip separator text
      let (item, next) ← parseValue fuel start
      let (items, rest) ← parseItems fuel [','] next
      some (item :: items, rest)

def parseMembers : ℕ → List Char → List Char → Option (Members × List Char)
  | 0, _, _ => none
  | fuel + 1, separator, text =>
    if text.head? = some '}' then some ([], text.tail)
    else do
      let start ← skip (separator ++ ['"']) text
      let (key, colon) ← parseString fuel start
      let body ← skip [':'] colon
      let (value, next) ← parseValue fuel body
      let (members, rest) ← parseMembers fuel [','] next
      some ((String.ofList key, value) :: members, rest)

end

/-- The plain document whose text this is. -/
def parse (bytes : List UInt8) : Option Json := do
  let text ← decodeText bytes
  match parseValue text.length text with
  | some (value, []) => if plain value then some value else none
  | _ => none

/-! ## The round trip -/

theorem skip_append (piece text : List Char) :
    skip piece (piece ++ text) = some text := by
  simp [skip]

theorem hexValue_digitChar {value : ℕ} (hlt : value < 16) :
    hexValue (Nat.digitChar value) = some value := by
  have hvalues : ∀ value : Fin 16,
      hexValue (Nat.digitChar value) = some value.val := by decide
  exact hvalues ⟨value, hlt⟩

theorem readCharacter_escape (character : Char) (rest : List Char) :
    readCharacter (escape character ++ rest) = some (character, rest) := by
  unfold escape
  split
  · rename_i letter hletter
    have hentries : ∀ entry ∈ escapes, entry.2 ≠ 'u' ∧
        escapes.find? (fun other => other.2 == entry.2) = some entry := by
      decide
    obtain ⟨before, after, hsplit, -⟩ := List.lookup_eq_some_iff.mp hletter
    obtain ⟨hne, hfound⟩ := hentries (character, letter) (by simp [hsplit])
    rw [List.cons_append, List.singleton_append, readCharacter]
    · rw [hfound, Option.map_some]
    · rintro _ _ _ rfl
      exact absurd rfl hne
  · rename_i hnone
    split
    · rename_i hcontrol
      have hcode : 16 * (character.toNat / 16) + character.toNat % 16 =
          character.toNat := by omega
      simp only [List.cons_append, List.nil_append, readCharacter,
        hexValue_digitChar (show character.toNat / 16 < 16 by omega),
        hexValue_digitChar (show character.toNat % 16 < 16 by omega),
        Option.bind_eq_bind, Option.bind_some, hcode, Char.ofNat_toNat]
    · rename_i hprinted
      have hslash : character ≠ '\\' := by
        rintro rfl
        exact absurd hnone (by decide)
      rw [List.singleton_append, readCharacter, if_neg hprinted]
      · rintro _ _ _ rfl
        exact absurd rfl hslash
      · rintro _ _ rfl
        exact absurd rfl hslash

theorem head?_escape (character : Char) (rest : List Char) :
    (escape character ++ rest).head? ≠ some '"' := by
  unfold escape
  split
  · simp
  · rename_i hnone
    split
    · simp
    · rw [List.singleton_append, List.head?_cons, ne_eq, Option.some.injEq]
      rintro rfl
      exact absurd hnone (by decide)

theorem length_escape_pos (character : Char) :
    0 < (escape character).length := by
  unfold escape
  split
  · simp
  · split <;> simp

theorem parseString_append (content : String) {fuel : ℕ}
    (hfuel : (quoted content).length ≤ fuel) (rest : List Char) :
    parseString fuel (quoted content ++ rest) =
      some (content.toList, rest) := by
  unfold quoted at hfuel ⊢
  generalize content.toList = characters at hfuel ⊢
  induction characters generalizing fuel with
  | nil =>
    obtain ⟨fuel, rfl⟩ := Nat.exists_eq_add_one.mpr hfuel
    simp [parseString]
  | cons character characters ih =>
    have hlength := length_escape_pos character
    simp only [List.flatMap_cons, List.append_assoc, List.length_append]
      at hfuel ih ⊢
    obtain ⟨fuel, rfl⟩ := Nat.exists_eq_add_one.mpr
      (show 0 < fuel by omega)
    rw [parseString, if_neg (head?_escape character _), readCharacter_escape]
    simp only [Option.bind_eq_bind, Option.bind_some]
    rw [ih (by omega), Option.bind_some]

theorem head?_compact (value : Json) (rest : List Char) :
    (compact value ++ rest).head? ≠ some ']' ∧
      (compact value ++ rest).head? ≠ some '}' := by
  cases value with
  | bool value => cases value <;> simp [compact]
  | _ => simp [compact]

theorem length_compact_pos (value : Json) : 0 < (compact value).length := by
  cases value with
  | bool value => cases value <;> simp [compact]
  | _ => simp [compact]

theorem length_compactItems_pos (separator : List Char) (items : List Json) :
    0 < (compactItems separator items).length := by
  cases items with
  | nil => simp [compactItems]
  | cons item items =>
    have hitem := length_compact_pos item
    simp only [compactItems, List.length_append]
    omega

theorem length_compactMembers_pos (separator : List Char)
    (members : Members) : 0 < (compactMembers separator members).length := by
  cases members with
  | nil => simp [compactMembers]
  | cons first members =>
    obtain ⟨key, value⟩ := first
    simp only [compactMembers, List.length_append, List.length_cons]
    omega

mutual

theorem parseValue_compact (value : Json) (hplain : plain value) (fuel : ℕ)
    (hfuel : (compact value).length ≤ fuel) (rest : List Char) :
    parseValue fuel (compact value ++ rest) = some (value, rest) := by
  obtain ⟨fuel, rfl⟩ : ∃ less, fuel = less + 1 :=
    Nat.exists_eq_add_one.mpr ((length_compact_pos value).trans_le hfuel)
  cases value with
  | null => rfl
  | bool value => cases value <;> rfl
  | num value => simp [plain] at hplain
  | str content =>
    have hparsed := parseString_append content
      (Nat.le_of_succ_le_succ hfuel) rest
    simp [compact, parseValue, hparsed]
  | arr items =>
    have hparsed := parseItems_compactItems items hplain fuel []
      (by simpa [compact] using hfuel) rest (.inl rfl)
    simp [compact, parseValue, hparsed]
  | obj members =>
    have hparsed := parseMembers_compactMembers members hplain fuel []
      (by simpa [compact] using hfuel) rest (.inl rfl)
    simp [compact, parseValue, hparsed]

theorem parseItems_compactItems (items : List Json)
    (hplain : plainItems items) (fuel : ℕ) (separator : List Char)
    (hfuel : (compactItems separator items).length ≤ fuel)
    (rest : List Char) (hseparator : separator = [] ∨ separator = [',']) :
    parseItems fuel separator (compactItems separator items ++ rest) =
      some (items, rest) := by
  obtain ⟨fuel, rfl⟩ : ∃ less, fuel = less + 1 := Nat.exists_eq_add_one.mpr
    ((length_compactItems_pos separator items).trans_le hfuel)
  cases items with
  | nil => simp [compactItems, parseItems]
  | cons item items =>
    simp only [plainItems, Bool.and_eq_true] at hplain
    have hitem := length_compact_pos item
    have hitems := length_compactItems_pos [','] items
    simp only [compactItems, List.length_append] at hfuel
    have hhead : (compactItems separator (item :: items) ++ rest).head? ≠
        some ']' := by
      rcases hseparator with rfl | rfl
      · rw [compactItems, List.nil_append, List.append_assoc]
        exact (head?_compact item _).1
      · simp [compactItems]
    have hvalue := parseValue_compact item hplain.1 fuel (by omega)
      (compactItems [','] items ++ rest)
    have hothers := parseItems_compactItems items hplain.2 fuel [',']
      (by omega) rest (.inr rfl)
    rw [parseItems, if_neg hhead]
    simp only [compactItems, List.append_assoc, skip_append]
    simp [hvalue, hothers]

theorem parseMembers_compactMembers (members : Members)
    (hplain : plainMembers members) (fuel : ℕ) (separator : List Char)
    (hfuel : (compactMembers separator members).length ≤ fuel)
    (rest : List Char) (hseparator : separator = [] ∨ separator = [',']) :
    parseMembers fuel separator (compactMembers separator members ++ rest) =
      some (members, rest) := by
  obtain ⟨fuel, rfl⟩ : ∃ less, fuel = less + 1 := Nat.exists_eq_add_one.mpr
    ((length_compactMembers_pos separator members).trans_le hfuel)
  cases members with
  | nil => simp [compactMembers, parseMembers]
  | cons first members =>
    obtain ⟨key, value⟩ := first
    simp only [plainMembers, Bool.and_eq_true] at hplain
    have hothersPos := length_compactMembers_pos [','] members
    simp only [compactMembers, List.length_append, List.length_cons]
      at hfuel
    have hhead : (compactMembers separator ((key, value) :: members) ++
        rest).head? ≠ some '}' := by
      rcases hseparator with rfl | rfl <;> simp [compactMembers]
    have hvalue := parseValue_compact value hplain.1 fuel (by omega)
      (compactMembers [','] members ++ rest)
    generalize hnext : compact value ++ (compactMembers [','] members ++
      rest) = next at hvalue
    have hkey := parseString_append key
      (show (quoted key).length ≤ fuel by omega) (':' :: next)
    have hothers := parseMembers_compactMembers members hplain.2 fuel [',']
      (by omega) rest (.inr rfl)
    have hstart : compactMembers separator ((key, value) :: members) ++
        rest = (separator ++ ['"']) ++ (quoted key ++ ':' :: next) := by
      simp [compactMembers, ← hnext]
    have hcolon := skip_append [':'] next
    rw [List.singleton_append] at hcolon
    rw [parseMembers, if_neg hhead, hstart, skip_append]
    simp [hkey, hcolon, hvalue, hothers]

end

/-! ## UTF-8 -/

theorem decodeText_utf8EncodeChar (character : Char) (rest : List UInt8) :
    decodeText (String.utf8EncodeChar character ++ rest) =
      (decodeText rest).map (character :: ·) := by
  have hcode : character.val.toNat < 1114112 := by
    have hvalid := character.valid
    simp only [UInt32.isValidChar, Nat.isValidChar] at hvalid
    omega
  have hsame : ∀ code, code = character.val.toNat →
      Char.ofNat code = character := by
    rintro _ rfl
    exact Char.ofNat_toNat character
  unfold String.utf8EncodeChar
  simp only
  split
  · rw [List.singleton_append, decodeText.eq_def]
    simp only [UInt8.toNat_ofNat']
    rw [if_pos (by omega), hsame _ (by omega)]
  · split
    · rw [List.cons_append, List.singleton_append, decodeText.eq_def]
      simp only [UInt8.toNat_ofNat']
      rw [if_neg (by omega), if_pos (by omega), hsame _ (by omega)]
    · split
      · simp only [List.cons_append, List.nil_append]
        rw [decodeText.eq_def]
        simp only [UInt8.toNat_ofNat']
        rw [if_neg (by omega), if_neg (by omega), if_pos (by omega),
          hsame _ (by omega)]
      · simp only [List.cons_append, List.nil_append]
        rw [decodeText.eq_def]
        simp only [UInt8.toNat_ofNat']
        rw [if_neg (by omega), if_neg (by omega), if_neg (by omega),
          hsame _ (by omega)]

theorem decodeText_flatMap (text : List Char) :
    decodeText (text.flatMap String.utf8EncodeChar) = some text := by
  induction text with
  | nil => rfl
  | cons character text ih =>
    rw [List.flatMap_cons, decodeText_utf8EncodeChar, ih]
    rfl

theorem parse_textBytes {value : Json} (hplain : plain value) :
    parse (textBytes value) = some value := by
  have hparsed := parseValue_compact value hplain _ le_rfl []
  rw [List.append_nil] at hparsed
  simp [parse, textBytes, decodeText_flatMap, hparsed, hplain]

theorem textBytes_ne_nil {value : Json} (hplain : plain value) :
    textBytes value ≠ [] := by
  intro hempty
  have hparsed := parse_textBytes hplain
  rw [hempty] at hparsed
  cases hparsed

theorem head?_textBytes_obj (members : Members) :
    (textBytes (.obj members)).head? = some 123 := by
  rw [textBytes, compact, List.flatMap_cons]
  rfl

theorem plain_of_parse {bytes : List UInt8} {value : Json}
    (hparse : parse bytes = some value) : plain value = true := by
  obtain ⟨text, -, hparse⟩ := Option.bind_eq_some_iff.mp hparse
  split at hparse
  · split at hparse
    · rename_i hplain
      obtain rfl := Option.some.inj hparse
      exact hplain
    · cases hparse
  · cases hparse

/-! ## Canonical documents -/

theorem plainMembers_iff {members : Members} :
    plainMembers members = true ↔ ∀ entry ∈ members, plain entry.2 = true := by
  induction members with
  | nil => simp [plainMembers]
  | cons first members ih =>
    obtain ⟨key, value⟩ := first
    simp [plainMembers, ih]

mutual

theorem plain_canonical (value : Json) (hplain : plain value) :
    plain value.canonical = true := by
  cases value with
  | arr items => exact plainItems_canonicalItems items hplain
  | obj members =>
    have hvalues := plainMembers_canonicalMembers members hplain
    rw [plainMembers_iff] at hvalues
    refine plainMembers_iff.mpr fun entry hentry => hvalues entry ?_
    exact (List.perm_insertionSort _ _).mem_iff.mp hentry
  | _ => exact hplain

theorem plainItems_canonicalItems (items : List Json)
    (hplain : plainItems items) :
    plainItems (canonicalItems items) = true := by
  cases items with
  | nil => rfl
  | cons item items =>
    simp only [plainItems, canonicalItems, Bool.and_eq_true] at hplain ⊢
    exact ⟨plain_canonical item hplain.1,
      plainItems_canonicalItems items hplain.2⟩

theorem plainMembers_canonicalMembers (members : Members)
    (hplain : plainMembers members) :
    plainMembers (canonicalMembers members) = true := by
  cases members with
  | nil => rfl
  | cons first members =>
    obtain ⟨key, value⟩ := first
    simp only [plainMembers, canonicalMembers, Bool.and_eq_true] at hplain ⊢
    exact ⟨plain_canonical value hplain.1,
      plainMembers_canonicalMembers members hplain.2⟩

end

end ComplyTime.JsonText
