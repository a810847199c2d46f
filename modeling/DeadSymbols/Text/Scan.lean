import DeadSymbols.Text.Space

/-!
Contract: recognisers for the tokens of a dump line.

Each recogniser takes the text that is left and gives the text after the token, or `none` when
the token is not there. A run of characters is always taken whole: the text after it starts
with a character of another class, if there is one.
-/

namespace DeadSymbols.Text

/-- The text after the given word, when it starts with it. -/
def after? : List Char → List Char → Option (List Char)
  | [], text => some text
  | _ :: _, [] => none
  | c :: word, d :: text => if c = d then after? word text else none

/-- Whether a text starts with the given word. -/
def startsWith (word text : List Char) : Bool :=
  (after? word text).isSome

/-- The longest run of characters of the class `p` at the start, and what follows it;
`none` when the run is empty. -/
def run? (p : Char → Bool) (text : List Char) : Option (List Char × List Char) :=
  match text.takeWhile p with
  | [] => none
  | run => some (run, text.dropWhile p)

/-- The text after one or more white-space characters. -/
def afterSpaces? (text : List Char) : Option (List Char) :=
  (run? isSpace text).map Prod.snd

/-- The hexadecimal digits in either case. -/
def isHexDigit (c : Char) : Bool :=
  ('0' ≤ c && c ≤ '9') || ('a' ≤ c && c ≤ 'f') || ('A' ≤ c && c ≤ 'F')

/-- The text after an address `0x` with one or more hexadecimal digits. -/
def afterAddress? (text : List Char) : Option (List Char) := do
  let digits ← after? "0x".toList text
  (run? isHexDigit digits).map Prod.snd

/-- The run of characters up to the next white space, and what follows it. -/
def word? (text : List Char) : Option (List Char × List Char) :=
  run? (fun c => !isSpace c) text

theorem after?_length {word text rest : List Char} (matched : after? word text = some rest) :
    text.length = word.length + rest.length := by
  induction word generalizing text with
  | nil => simp_all [after?]
  | cons c word inductionHypothesis =>
      cases text with
      | nil => simp [after?] at matched
      | cons d text =>
          by_cases same : c = d
          · have := @inductionHypothesis text (by simpa [after?, same] using matched)
            simp only [List.length_cons]
            omega
          · simp [after?, same] at matched

theorem run?_length {p : Char → Bool} {text run rest : List Char}
    (matched : run? p text = some (run, rest)) :
    text.length = run.length + rest.length := by
  unfold run? at matched
  split at matched
  · simp at matched
  · rename_i found _
    simp only [Option.some.injEq, Prod.mk.injEq] at matched
    obtain ⟨rfl, rfl⟩ := matched
    have whole := congrArg List.length (List.takeWhile_append_dropWhile (p := p) (l := text))
    simp only [List.length_append] at whole
    omega

end DeadSymbols.Text
