import DeadSymbols.Dump.Reference
import DeadSymbols.Proofs.Scan

/-!
Contract: the lines of a dump as a grammar.

A name line, a line before methods and a class reference are described by how they are put
together from white space, fixed words, digits and tokens. The readers of the model accept
exactly these lines and give back the token, which a line therefore determines.

Three readers start alike, with a word and an address after it. `Keyed` is that start, and
`keyed_iff` is the one place that opens it. A line may also be split inside the digits of its
address; then the digits that are left over are taken into the address again.

Owns: the grammar of name lines, implementation lines and class references, and the readers'
agreement with it.
-/

namespace DeadSymbols.Dump

open DeadSymbols.Text

variable {line rest : List Char} {token : String}

/-- A line `name 0x<address> <token>`, with any text after white space behind the token. -/
def NameLine (line : List Char) (token : String) : Prop :=
  ∃ indent gap digits space rest,
    line = indent ++ "name".toList ++ gap ++ "0x".toList ++ digits ++ space ++ token.toList ++ rest ∧
      Spaces indent ∧ Run isSpace gap ∧ Run isHexDigit digits ∧ Run isSpace space ∧
      Run isWordChar token.toList ∧ Stops isWordChar rest

/-- A line that starts with `baseMethods` after white space. -/
def MethodsLine (line : List Char) : Prop :=
  ∃ indent rest, line = indent ++ "baseMethods".toList ++ rest ∧ Spaces indent

/-- A line `<digits> 0x<address> _OBJC_CLASS_$_<token>`, with any text after white space behind
the token. -/
def ClassReferenceLine (line : List Char) (token : String) : Prop :=
  ∃ indent place gap digits space rest,
    line = indent ++ place ++ gap ++ "0x".toList ++ digits ++ space ++
        "_OBJC_CLASS_$_".toList ++ token.toList ++ rest ∧
      Spaces indent ∧ Run isHexDigit place ∧ Run isSpace gap ∧ Run isHexDigit digits ∧
      Run isSpace space ∧ Run isWordChar token.toList ∧ Stops isWordChar rest

/-! ### A word and an address -/

/-- A line that starts with a word and an address, and the text after them. -/
def Keyed (word line rest : List Char) : Prop :=
  ∃ indent gap digits,
    line = indent ++ (word ++ (gap ++ ("0x".toList ++ (digits ++ rest)))) ∧
      Spaces indent ∧ Run isSpace gap ∧ Run isHexDigit digits ∧ Stops isHexDigit rest

private theorem stops_address {digits : List Char} : Stops isSpace ("0x".toList ++ digits) :=
  stops_word (by decide)

/-- A line starts with a word and an address exactly when the readers find them in turn. -/
theorem keyed_iff {word : List Char} (isWord : Run isWordChar word) :
    Keyed word line rest ↔
      ∃ spaced address, after? word (trimStart line) = some spaced ∧
        afterSpaces? spaced = some address ∧ afterAddress? address = some rest := by
  constructor
  · intro keyed
    obtain ⟨indent, gap, digits, rfl, spaces, isGap, isDigits, stops⟩ := keyed
    refine ⟨gap ++ ("0x".toList ++ (digits ++ rest)), "0x".toList ++ (digits ++ rest), ?_, ?_, ?_⟩
    · rw [trimStart_append spaces isWord.stops_space, after?_append]
    · exact afterSpaces?_append isGap stops_address
    · exact afterAddress?_append isDigits stops
  · intro found
    obtain ⟨spaced, address, foundWord, foundSpaces, foundAddress⟩ := found
    obtain ⟨indent, whole, spaces⟩ := exists_indent line
    obtain ⟨gap, rfl, isGap, _⟩ := afterSpaces?_eq_some_iff.mp foundSpaces
    obtain ⟨digits, rfl, isDigits, stops⟩ := afterAddress?_eq_some_iff.mp foundAddress
    rw [after?_eq_some_iff.mp foundWord] at whole
    exact ⟨indent, gap, digits, whole, spaces, isGap, isDigits, stops⟩

/-! ### Name lines -/

theorem isWord_name : Run isWordChar "name".toList := by decide

/-- The token of a name line, read after its word and address. -/
theorem nameToken?_eq_some_iff_keyed :
    nameToken? line = some token ↔
      ∃ space rest, Keyed "name".toList line (space ++ (token.toList ++ rest)) ∧
        Run isSpace space ∧ Run isWordChar token.toList ∧ Stops isWordChar rest := by
  simp only [nameToken?, bind, Option.bind_eq_some_iff, pure, Option.some.injEq, Prod.exists,
    keyed_iff isWord_name]
  constructor
  · intro found
    obtain ⟨spaced, foundWord, address, foundSpaces, after, foundAddress, behind, foundSpace, word,
      rest, foundToken, rfl⟩ := found
    obtain ⟨space, rfl, isSpaces, _⟩ := afterSpaces?_eq_some_iff.mp foundSpace
    obtain ⟨rfl, isToken, stops⟩ := word?_eq_some_iff.mp foundToken
    simp only [String.toList_ofList]
    exact ⟨space, rest, ⟨spaced, address, foundWord, foundSpaces, foundAddress⟩, isSpaces, isToken,
      stops⟩
  · intro keyed
    obtain ⟨space, rest, ⟨spaced, address, foundWord, foundSpaces, foundAddress⟩, isSpaces, isToken,
      stops⟩ := keyed
    refine ⟨spaced, foundWord, address, foundSpaces, _, foundAddress, token.toList ++ rest, ?_,
      token.toList, rest, word?_append isToken stops, String.ofList_toList⟩
    exact afterSpaces?_append isSpaces isToken.stops_space

/-- The reader of names accepts exactly the name lines, and gives their token. -/
theorem nameToken?_eq_some_iff : nameToken? line = some token ↔ NameLine line token := by
  rw [nameToken?_eq_some_iff_keyed]
  constructor
  · intro keyed
    obtain ⟨space, rest, ⟨indent, gap, digits, rfl, spaces, isGap, isDigits, _⟩, isSpaces, isToken,
      stops⟩ := keyed
    refine ⟨indent, gap, digits, space, rest, ?_, spaces, isGap, isDigits, isSpaces, isToken, stops⟩
    simp only [List.append_assoc]
  · intro named
    obtain ⟨indent, gap, digits, space, rest, rfl, spaces, isGap, isDigits, isSpaces, isToken, stops⟩ :=
      named
    refine ⟨space, rest, ⟨indent, gap, digits, ?_, spaces, isGap, isDigits, isSpaces.stops_hex⟩,
      isSpaces, isToken, stops⟩
    simp only [List.append_assoc]

/-- A line that names nothing. -/
def Nameless (line : List Char) : Prop := ∀ token, ¬ NameLine line token

theorem nameToken?_eq_none_iff : nameToken? line = none ↔ Nameless line := by
  simp only [Option.eq_none_iff_forall_ne_some, ne_eq, nameToken?_eq_some_iff, Nameless]

/-- The token of a name line has characters, and none is white space. -/
theorem nameToken?_isWord (found : nameToken? line = some token) : Run isWordChar token.toList := by
  obtain ⟨_, _, _, _, isToken, _⟩ := nameToken?_eq_some_iff_keyed.mp found
  exact isToken

/-! ### Implementation lines -/

/-- Text after an implementation's address that carries a symbol `-[Owner selector]` or
`+[Owner selector]`. -/
def SymbolText (text : List Char) (owner selector : String) : Prop :=
  ∃ space sign rest,
    text = space ++ sign ++ "[".toList ++ owner.toList ++ " ".toList ++ selector.toList ++
        "]".toList ++ rest ∧
      Run isSpace space ∧ (sign = "-".toList ∨ sign = "+".toList) ∧
      Run isWordChar owner.toList ∧ Run isSymbolSelectorChar selector.toList

private theorem opened_iff {text opened : List Char} :
    (after? "-[".toList text).or (after? "+[".toList text) = some opened ↔
      ∃ sign, (sign = "-".toList ∨ sign = "+".toList) ∧ text = sign ++ ("[".toList ++ opened) := by
  rw [Option.or_eq_some_iff, after?_eq_some_iff, after?_eq_some_iff]
  constructor
  · intro found
    rcases found with minus | ⟨_, plus⟩
    · exact ⟨"-".toList, Or.inl rfl, minus⟩
    · exact ⟨"+".toList, Or.inr rfl, plus⟩
  · intro signed
    obtain ⟨sign, minus | plus, rfl⟩ := signed
    · rw [minus]
      exact Or.inl rfl
    · rw [plus]
      exact Or.inr ⟨rfl, rfl⟩

theorem symbol?_eq_some_iff {text : List Char} {owner selector : String} :
    symbol? text = some (owner, selector) ↔ SymbolText text owner selector := by
  simp only [symbol?, bind, Option.bind_eq_some_iff, pure, Option.some.injEq, Prod.exists,
    Prod.mk.injEq, opened_iff]
  constructor
  · intro found
    obtain ⟨signed, foundSpace, opened, ⟨sign, isSign, rfl⟩, ownerChars, spaced, foundOwner, named,
      foundBlank, selectorChars, closing, foundSelector, rest, foundClosing, rfl, rfl⟩ := found
    obtain ⟨space, rfl, isSpaces, _⟩ := afterSpaces?_eq_some_iff.mp foundSpace
    obtain ⟨rfl, isOwner, _⟩ := word?_eq_some_iff.mp foundOwner
    obtain rfl := after?_eq_some_iff.mp foundBlank
    obtain ⟨rfl, isSelector, _⟩ := run?_eq_some_iff.mp foundSelector
    obtain rfl := after?_eq_some_iff.mp foundClosing
    refine ⟨space, sign, rest, ?_, isSpaces, isSign, ?_, ?_⟩
    · simp only [String.toList_ofList, List.append_assoc]
    · rw [String.toList_ofList]
      exact isOwner
    · rw [String.toList_ofList]
      exact isSelector
  · intro carried
    obtain ⟨space, sign, rest, rfl, isSpaces, isSign, isOwner, isSelector⟩ := carried
    simp only [List.append_assoc]
    refine ⟨_, afterSpaces?_append isSpaces ?_, _, ⟨sign, isSign, rfl⟩, owner.toList, _,
      word?_append isOwner ?_, _, after?_append, selector.toList, _, run?_append isSelector ?_, rest,
      after?_append, String.ofList_toList, String.ofList_toList⟩
    · rcases isSign with rfl | rfl
      · exact stops_word (by decide)
      · exact stops_word (by decide)
    · exact stops_word (by decide)
    · exact stops_word (by decide)

theorem isWord_of_isSymbolSelector {selector : List Char}
    (isSelector : Run isSymbolSelectorChar selector) : Run isWordChar selector := by
  refine ⟨isSelector.1, ?_⟩
  intro c member
  have allowed := isSelector.2 c member
  rw [isSymbolSelectorChar, Bool.and_eq_true] at allowed
  exact allowed.2

/-- What an implementation line says, given the text after its address. -/
def ImpLine.ofText (text : List Char) : ImpLine :=
  match symbol? text with
  | some (owner, selector) => .symbol owner selector
  | none => .stripped

theorem isWord_imp : Run isWordChar "imp".toList := by decide

/-- The reader of implementation lines accepts a line by its word and address alone, and looks for
the symbol after them. -/
theorem impLine?_eq_some_iff {imp : ImpLine} :
    impLine? line = some imp ↔
      ∃ rest, Keyed "imp".toList line rest ∧ imp = ImpLine.ofText rest := by
  simp only [impLine?, bind, Option.bind_eq_some_iff, pure, keyed_iff isWord_imp]
  constructor
  · intro found
    obtain ⟨spaced, foundWord, address, foundSpaces, rest, foundAddress, said⟩ := found
    refine ⟨rest, ⟨spaced, address, foundWord, foundSpaces, foundAddress⟩, ?_⟩
    unfold ImpLine.ofText
    cases carried : symbol? rest with
    | none => simpa [carried] using said.symm
    | some names => simpa [carried] using said.symm
  · intro keyed
    obtain ⟨rest, ⟨spaced, address, foundWord, foundSpaces, foundAddress⟩, rfl⟩ := keyed
    refine ⟨spaced, foundWord, address, foundSpaces, rest, foundAddress, ?_⟩
    unfold ImpLine.ofText
    cases symbol? rest with
    | none => rfl
    | some names => rfl

theorem ImpLine.ofText_eq_symbol_iff {text : List Char} {owner selector : String} :
    ImpLine.ofText text = .symbol owner selector ↔ SymbolText text owner selector := by
  rw [← symbol?_eq_some_iff, ImpLine.ofText]
  cases found : symbol? text with
  | none => simp
  | some names => simp [Prod.ext_iff]

/-- A line `imp 0x<address>` that says the given: a symbol behind the address, or none. -/
def ImpLine.Spelled (line : List Char) : ImpLine → Prop
  | .symbol owner selector =>
      ∃ text, Keyed "imp".toList line text ∧ SymbolText text owner selector
  | .stripped =>
      ∃ text, Keyed "imp".toList line text ∧ ∀ owner selector, ¬ SymbolText text owner selector

theorem impLine?_eq_some_iff_spelled {imp : ImpLine} :
    impLine? line = some imp ↔ imp.Spelled line := by
  rw [impLine?_eq_some_iff]
  cases imp with
  | symbol owner selector => simp only [ImpLine.Spelled, eq_comm, ImpLine.ofText_eq_symbol_iff]
  | stripped =>
      apply exists_congr
      intro text
      apply and_congr_right
      intro _
      simp only [ImpLine.ofText, ← symbol?_eq_some_iff]
      cases symbol? text with
      | none => simp
      | some names => simp [Prod.ext_iff]

/-- Both names in a symbol have characters, and none is white space. -/
theorem impLine?_symbol_isWord {owner selector : String}
    (found : impLine? line = some (.symbol owner selector)) :
    Run isWordChar owner.toList ∧ Run isWordChar selector.toList := by
  obtain ⟨text, _, carried⟩ := impLine?_eq_some_iff.mp found
  obtain ⟨_, _, _, _, _, _, isOwner, isSelector⟩ :=
    ImpLine.ofText_eq_symbol_iff.mp carried.symm
  exact ⟨isOwner, isWord_of_isSymbolSelector isSelector⟩

/-! ### Lines that start with a word -/

/-- A line that starts with a word after white space. -/
def LedBy (word line : List Char) : Prop :=
  ∃ indent rest, line = indent ++ word ++ rest ∧ Spaces indent

theorem startsWith_trimStart_iff {word : List Char} (leads : word ≠ [] ∧ Stops isSpace word) :
    startsWith word (trimStart line) = true ↔ LedBy word line := by
  rw [startsWith_iff]
  constructor
  · intro starts
    obtain ⟨rest, trimmed⟩ := starts
    obtain ⟨indent, whole, spaces⟩ := exists_indent line
    refine ⟨indent, rest, ?_, spaces⟩
    rw [List.append_assoc, ← trimmed]
    exact whole
  · intro led
    obtain ⟨indent, rest, rfl, spaces⟩ := led
    refine ⟨rest, ?_⟩
    rw [List.append_assoc]
    exact trimStart_append spaces (stops_word leads)

theorem startsWith_methods_iff :
    startsWith "baseMethods".toList (trimStart line) = true ↔ MethodsLine line :=
  startsWith_trimStart_iff (by decide)

/-! ### Class references -/

/-- The reader of class references accepts exactly their lines, and gives their token. -/
theorem classReference?_eq_some_iff :
    classReference? line = some token ↔ ClassReferenceLine line token := by
  simp only [classReference?, bind, Option.bind_eq_some_iff, pure, Option.some.injEq, Prod.exists]
  constructor
  · intro found
    obtain ⟨place, afterPlace, foundPlace, spaced, foundGap, address, foundAddress, symbol, foundSpace,
      target, foundMark, word, rest, foundToken, rfl⟩ := found
    obtain ⟨indent, whole, spaces⟩ := exists_indent line
    obtain ⟨trimmed, isPlace, _⟩ := run?_eq_some_iff.mp foundPlace
    obtain ⟨gap, rfl, isGap, _⟩ := afterSpaces?_eq_some_iff.mp foundGap
    obtain ⟨digits, rfl, isDigits, _⟩ := afterAddress?_eq_some_iff.mp foundAddress
    obtain ⟨space, rfl, isSpaces, _⟩ := afterSpaces?_eq_some_iff.mp foundSpace
    obtain rfl := after?_eq_some_iff.mp foundMark
    obtain ⟨rfl, isToken, stops⟩ := word?_eq_some_iff.mp foundToken
    rw [trimmed] at whole
    refine ⟨indent, place, gap, digits, space, rest, ?_, spaces, isPlace, isGap, isDigits, isSpaces,
      ?_, stops⟩
    · simp only [whole, String.toList_ofList, List.append_assoc]
    · rw [String.toList_ofList]
      exact isToken
  · intro reference
    obtain ⟨indent, place, gap, digits, space, rest, rfl, spaces, isPlace, isGap, isDigits, isSpaces,
      isToken, stops⟩ := reference
    simp only [List.append_assoc]
    have placeStops : Stops isSpace (place ++ (gap ++ ("0x".toList ++ (digits ++ (space ++
        ("_OBJC_CLASS_$_".toList ++ (token.toList ++ rest))))))) :=
      isPlace.stops_append fun _ => isSpace_eq_false_of_isHexDigit
    rw [trimStart_append spaces placeStops]
    refine ⟨place, _, run?_append isPlace isGap.stops_hex, _, afterSpaces?_append isGap stops_address,
      _, afterAddress?_append isDigits isSpaces.stops_hex, _, afterSpaces?_append isSpaces ?_, _,
      after?_append, token.toList, rest, word?_append isToken stops, String.ofList_toList⟩
    exact stops_word (by decide)

/-! ### Lines of both kinds -/

/-- A line that starts with a word and an address, and the text that is left of it. Digits of the
address may be among that text. -/
def Addressed (word line rest : List Char) : Prop :=
  ∃ indent gap digits,
    line = indent ++ word ++ gap ++ "0x".toList ++ digits ++ rest ∧
      Spaces indent ∧ Run isSpace gap ∧ Run isHexDigit digits

/-- A line `imp 0x<address> -[Owner selector]` or `imp 0x<address> +[Owner selector]`, with any text
behind the bracket. -/
def SymbolLine (line : List Char) (owner selector : String) : Prop :=
  ∃ rest, Addressed "imp".toList line rest ∧ SymbolText rest owner selector

theorem keyed_iff_addressed {word : List Char} :
    Keyed word line rest ↔ Addressed word line rest ∧ Stops isHexDigit rest := by
  constructor
  · intro keyed
    obtain ⟨indent, gap, digits, rfl, spaces, isGap, isDigits, stops⟩ := keyed
    refine ⟨⟨indent, gap, digits, ?_, spaces, isGap, isDigits⟩, stops⟩
    simp only [List.append_assoc]
  · intro addressed
    obtain ⟨⟨indent, gap, digits, rfl, spaces, isGap, isDigits⟩, stops⟩ := addressed
    refine ⟨indent, gap, digits, ?_, spaces, isGap, isDigits, stops⟩
    simp only [List.append_assoc]

/-- The digits that are left over belong to the address. -/
theorem Addressed.keyed {word : List Char} (addressed : Addressed word line rest) :
    Keyed word line (rest.dropWhile isHexDigit) := by
  obtain ⟨indent, gap, digits, rfl, spaces, isGap, isDigits⟩ := addressed
  refine ⟨indent, gap, digits ++ rest.takeWhile isHexDigit, ?_, spaces, isGap, ?_, stops_dropWhile⟩
  · simp only [List.append_assoc, List.takeWhile_append_dropWhile]
  · refine ⟨List.append_ne_nil_of_left_ne_nil isDigits.1 _, ?_⟩
    intro c member
    rcases List.mem_append.mp member with inDigits | inRest
    · exact isDigits.2 c inDigits
    · exact List.mem_takeWhile_imp inRest

theorem SymbolText.stops_hex {text : List Char} {owner selector : String}
    (carried : SymbolText text owner selector) :
    Stops isHexDigit text := by
  obtain ⟨space, sign, rest, rfl, isSpaces, _⟩ := carried
  simp only [List.append_assoc]
  exact isSpaces.stops_hex

/-- The reader of implementation lines accepts exactly the lines with the word and an address. -/
theorem exists_impLine?_iff :
    (∃ imp, impLine? line = some imp) ↔ ∃ rest, Addressed "imp".toList line rest := by
  constructor
  · intro accepted
    obtain ⟨imp, found⟩ := accepted
    obtain ⟨rest, keyed, _⟩ := impLine?_eq_some_iff.mp found
    exact ⟨rest, (keyed_iff_addressed.mp keyed).1⟩
  · intro addressed
    obtain ⟨rest, addressed⟩ := addressed
    exact ⟨_, impLine?_eq_some_iff.mpr ⟨_, addressed.keyed, rfl⟩⟩

theorem impLine?_eq_symbol_iff {owner selector : String} :
    impLine? line = some (.symbol owner selector) ↔ SymbolLine line owner selector := by
  rw [impLine?_eq_some_iff_spelled]
  constructor
  · intro spelled
    obtain ⟨rest, keyed, carried⟩ := spelled
    exact ⟨rest, (keyed_iff_addressed.mp keyed).1, carried⟩
  · intro symbolLine
    obtain ⟨rest, addressed, carried⟩ := symbolLine
    exact ⟨rest, keyed_iff_addressed.mpr ⟨addressed, carried.stops_hex⟩, carried⟩

/-- A line that is accepted is stripped unless it carries a symbol. -/
theorem impLine?_eq_stripped_iff :
    impLine? line = some .stripped ↔
      (∃ rest, Addressed "imp".toList line rest) ∧ ∀ owner selector, ¬ SymbolLine line owner selector := by
  simp only [← exists_impLine?_iff, ← impLine?_eq_symbol_iff]
  constructor
  · intro stripped
    refine ⟨⟨.stripped, stripped⟩, ?_⟩
    intro owner selector carries
    rw [stripped] at carries
    cases carries
  · intro accepted
    obtain ⟨⟨imp, found⟩, bare⟩ := accepted
    cases imp with
    | stripped => exact found
    | symbol owner selector => exact absurd found (bare owner selector)

/-- No line is both: its first word is `name` or `imp`. -/
theorem nameToken?_eq_none_of_imp {imp : ImpLine} (found : impLine? line = some imp) :
    nameToken? line = none := by
  obtain ⟨_, keyed, _⟩ := impLine?_eq_some_iff.mp found
  obtain ⟨spaced, _, foundWord, _⟩ := (keyed_iff isWord_imp).mp keyed
  have noName : after? "name".toList (trimStart line) = none := by
    rw [after?_eq_some_iff.mp foundWord]
    exact after?_eq_none (startsWith_eq_false_of_clash (by decide))
  rw [nameToken?, noName]
  rfl

/-- The readers of name lines and of implementation lines accept exactly the lines of their grammars,
and what a line says is determined by it: its token, or the owner and the selector of its symbol. No
line is accepted by both. -/
theorem line_readers_exact (line : List Char) :
    (∀ token, nameToken? line = some token ↔ NameLine line token) ∧
      (∀ token other, NameLine line token → NameLine line other → token = other) ∧
      ((∃ imp, impLine? line = some imp) ↔ ∃ rest, Addressed "imp".toList line rest) ∧
      (∀ owner selector,
        impLine? line = some (.symbol owner selector) ↔ SymbolLine line owner selector) ∧
      (∀ owner selector otherOwner otherSelector, SymbolLine line owner selector →
        SymbolLine line otherOwner otherSelector → owner = otherOwner ∧ selector = otherSelector) ∧
      (impLine? line = some .stripped ↔
        (∃ rest, Addressed "imp".toList line rest) ∧
          ∀ owner selector, ¬ SymbolLine line owner selector) ∧
      ¬ ((∃ token, nameToken? line = some token) ∧ ∃ imp, impLine? line = some imp) := by
  refine ⟨fun _ => nameToken?_eq_some_iff, ?_, exists_impLine?_iff, fun _ _ => impLine?_eq_symbol_iff,
    ?_, impLine?_eq_stripped_iff, ?_⟩
  · intro token other named namedOther
    have found := nameToken?_eq_some_iff.mpr named
    rw [nameToken?_eq_some_iff.mpr namedOther] at found
    exact (Option.some.inj found).symm
  · intro owner selector otherOwner otherSelector carries carriesOther
    have found := impLine?_eq_symbol_iff.mpr carries
    rw [impLine?_eq_symbol_iff.mpr carriesOther] at found
    obtain ⟨sameOwner, sameSelector⟩ := ImpLine.symbol.inj (Option.some.inj found)
    exact ⟨sameOwner.symm, sameSelector.symm⟩
  · intro both
    obtain ⟨⟨token, named⟩, imp, implemented⟩ := both
    rw [nameToken?_eq_none_of_imp implemented] at named
    cases named

/-- White space of several kinds, an owner with a sign and brackets in it, and text behind the
bracket that closes. -/
theorem line_readers_exact_brackets :
    let line := "\u2003imp \t0x1F\u00a0+[(A)-[B c:]] d".toList
    impLine? line = some (.symbol "(A)-[B" "c:") ∧
      (∀ owner selector, SymbolLine line owner selector → owner = "(A)-[B" ∧ selector = "c:") ∧
      ∀ token, ¬ NameLine line token := by
  intro line
  have addressed : Addressed "imp".toList line "\u00a0+[(A)-[B c:]] d".toList :=
    ⟨"\u2003".toList, " \t".toList, "1F".toList, rfl, by decide, by decide, by decide⟩
  have carried : SymbolText "\u00a0+[(A)-[B c:]] d".toList "(A)-[B" "c:" :=
    ⟨"\u00a0".toList, "+".toList, "] d".toList, rfl, by decide, Or.inr rfl, by decide, by decide⟩
  obtain ⟨names, _, _, symbols, unique, _, apart⟩ := line_readers_exact line
  have found := (symbols _ _).mpr ⟨_, addressed, carried⟩
  refine ⟨found, ?_, ?_⟩
  · intro owner selector carries
    exact unique owner selector _ _ carries ⟨_, addressed, carried⟩
  · intro token named
    exact apart ⟨⟨token, (names token).mpr named⟩, _, found⟩

end DeadSymbols.Dump
