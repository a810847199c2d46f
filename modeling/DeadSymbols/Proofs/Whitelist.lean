import DeadSymbols.Proofs.Commands
import DeadSymbols.Proofs.Json.Accepting

/-!
Contract: which texts are whitelists, and what a whitelist adds.

A text is a whitelist exactly when it spells a JSON array of strings with nothing but white space
around it, and every other text is refused as an invalid whitelist. So of all JSON values, in either
written form, the arrays of strings are whitelists, and a text is refused that goes on behind one.

The whitelist in effect is a set, so it is determined by the selectors that its sources list: how
often and in which order they do so leaves no trace.

Owns: the texts of whitelists, the sources of the whitelist in effect.
-/

namespace DeadSymbols

open DeadSymbols.Json

namespace Whitelist

variable {before text after : List Char} {names : List String} {value : Value}

/-- The text is refused as a whitelist. -/
def Refused (text : List Char) : Prop :=
  ∃ problem, ofJson text = .error (.invalidWhitelist problem)

theorem ofJson_eq_ok_iff : ofJson text = .ok names ↔ decode decoder text = .ok names := by
  rw [ofJson]
  cases decode decoder text with
  | error problem => simp [Except.mapError]
  | ok found => simp [Except.mapError]

theorem refused_iff : Refused text ↔ ∀ names, ofJson text ≠ .ok names := by
  rw [Refused, ofJson]
  cases decode decoder text with
  | error problem => simp [Except.mapError]
  | ok found => simp [Except.mapError]

/-- Whitelists are spelled as arrays of strings. -/
theorem ofJson_iff_surrounded :
    ofJson text = .ok names ↔ Surrounded (ListText StringText) names text := by
  rw [ofJson_eq_ok_iff]
  exact ((accepts_stringAs "a string").list tokens_stringText).decode_iff

theorem readsOnly_decoder : ReadsOnly decoder strings := readsOnly_string.list

theorem ofJson_spelled_iff (blankBefore : Gap before) (spells : Spells value text)
    (blankAfter : Gap after) :
    ofJson (before ++ (text ++ after)) = .ok names ↔ value = strings names := by
  rw [ofJson_eq_ok_iff]
  constructor
  · intro found
    obtain ⟨rest, read, _⟩ := decode_eq_ok_iff.mp found
    exact (readsOnly_decoder blankBefore spells read).1
  · intro written
    subst written
    exact (reads_strings names).decode blankBefore spells blankAfter

/-- Whatever value comes first, nothing but white space may follow it. -/
theorem refused_of_trailing {rest : List Char} (blankBefore : Gap before) (spells : Spells value text)
    (notBlank : ¬ Gap rest) : Refused (before ++ (text ++ rest)) := by
  rw [refused_iff]
  intro names found
  obtain ⟨_, read, blank⟩ := decode_eq_ok_iff.mp (ofJson_eq_ok_iff.mp found)
  obtain ⟨_, rfl⟩ := readsOnly_decoder blankBefore spells read
  exact notBlank blank

end Whitelist

/-! ### The whitelist in effect -/

/-- A source that takes part lists the selector: the built-in whitelist if it is enabled, the
settings, the JSON text or the file. -/
def Listed (settings : Settings) (fromJson fromFile : List String) (selector : String) : Prop :=
  (settings.useBuiltInWhitelist = true ∧ selector ∈ Whitelist.builtIn) ∨
    selector ∈ settings.whitelist ∨ selector ∈ fromJson ∨ selector ∈ fromFile

theorem mem_fullWhitelist_iff_listed {settings : Settings} {fromJson fromFile : List String}
    {selector : String} :
    selector ∈ settings.fullWhitelist (fromJson ++ fromFile) ↔
      Listed settings fromJson fromFile selector := by
  rw [Settings.mem_fullWhitelist, List.mem_append, Listed]

/-- Whitelists that list the same selectors are the same. -/
theorem fullWhitelist_eq {settings other : Settings}
    {fromJson fromFile otherJson otherFile : List String}
    (same : ∀ selector,
      Listed other otherJson otherFile selector ↔ Listed settings fromJson fromFile selector) :
    other.fullWhitelist (otherJson ++ otherFile) = settings.fullWhitelist (fromJson ++ fromFile) := by
  apply NameSet.ext
  intro selector
  rw [mem_fullWhitelist_iff_listed, mem_fullWhitelist_iff_listed]
  exact same selector

open Command in
/-- A text is accepted as a whitelist exactly when it spells an array of strings, and is refused
otherwise. Of the written forms of JSON values, with white space around them, those of arrays of
strings are accepted, with their strings in order, and whatever follows makes a text refused. With an
accepted text, the whitelist in effect has the selectors that a source lists, and depends on nothing
else; only a file that cannot be had prevents it. -/
theorem whitelist_json_exact :
    (∀ text names,
      Whitelist.ofJson text = .ok names ↔ Surrounded (ListText StringText) names text) ∧
    (∀ text,
      Whitelist.Refused text ↔ ∀ names, ¬ Surrounded (ListText StringText) names text) ∧
    (∀ (value : Value) (before text after : List Char), Gap before → Gap after →
      (text = value.compact ∨ text = value.pretty) →
        (∀ names,
          Whitelist.ofJson (before ++ (text ++ after)) = .ok names ↔ value = strings names) ∧
        (Whitelist.Refused (before ++ (text ++ after)) ↔ ∀ names, value ≠ strings names) ∧
        ∀ c more, isGap c = false →
          Whitelist.Refused (before ++ (text ++ (after ++ c :: more)))) ∧
    ∀ (settings : Settings) (json : String) (names : List String) (file : Option String)
        (host : Host), Whitelist.ofJson json.toList = .ok names →
      (∀ fromFile, host.listedInFile file = .ok fromFile →
        ∃ whitelist, gatherWhitelist settings (some json) file host = (.ok whitelist, host) ∧
          (∀ selector, selector ∈ whitelist ↔ Listed settings names fromFile selector) ∧
          ∀ (other : Settings) (otherJson : String) (otherNames : List String)
              (otherFile : Option String) (otherHost : Host) (otherFromFile : List String),
            Whitelist.ofJson otherJson.toList = .ok otherNames →
            otherHost.listedInFile otherFile = .ok otherFromFile →
            (∀ selector, Listed other otherNames otherFromFile selector ↔
              Listed settings names fromFile selector) →
            gatherWhitelist other (some otherJson) otherFile otherHost =
              (.ok whitelist, otherHost)) ∧
      ∀ error, host.listedInFile file = .error error →
        ∃ context, gatherWhitelist settings (some json) file host =
          (.error { contexts := [context], cause := .settings error }, host) := by
  refine ⟨?_, ?_, ?_, ?_⟩
  · intro text names
    exact Whitelist.ofJson_iff_surrounded
  · intro text
    rw [Whitelist.refused_iff]
    simp only [ne_eq, Whitelist.ofJson_iff_surrounded]
  · intro value before text after blankBefore blankAfter written
    have spells : Spells value text := by
      rcases written with rfl | rfl
      · exact spells_compact value
      · exact spells_pretty value
    refine ⟨?_, ?_, ?_⟩
    · intro names
      exact Whitelist.ofJson_spelled_iff blankBefore spells blankAfter
    · rw [Whitelist.refused_iff]
      simp only [ne_eq, Whitelist.ofJson_spelled_iff blankBefore spells blankAfter]
    · intro c more noGap
      apply Whitelist.refused_of_trailing blankBefore spells
      intro blank
      have isBlank := blank c (List.mem_append_right after List.mem_cons_self)
      rw [noGap] at isBlank
      cases isBlank
  · intro settings json names file host accepted
    refine ⟨?_, ?_⟩
    · intro fromFile good
      refine ⟨_, gatherWhitelist_ok accepted good, fun _ => mem_fullWhitelist_iff_listed, ?_⟩
      intro other otherJson otherNames otherFile otherHost otherFromFile otherAccepted otherGood same
      rw [← fullWhitelist_eq same]
      exact gatherWhitelist_ok otherAccepted otherGood
    · intro error bad
      cases file with
      | none => cases bad
      | some path => exact ⟨_, gatherWhitelist_fileError accepted bad⟩

open Command in
/-- Strings with quotes, a control character and one that UTF-16 writes as a pair, a number deep
inside an array, a further character, and a whitelist whose entries are repeated and escaped. -/
theorem whitelist_json_exact_entries :
    let names := ["say \"hi\":", "\x01😀"]
    let nested : Value := .array [.string "a", .array [.string "b", .number (-7)]]
    let text := "\r\n ".toList ++ ((strings names).pretty ++ "\t".toList)
    let longer := "\r\n ".toList ++ ((strings names).pretty ++ ("\t".toList ++ ['x']))
    let settings : Settings := { useBuiltInWhitelist := false, whitelist := ["b:"] }
    let json := "[\"a\", \"\\u0062:\", \"a\"]"
    let content := "[\"c\"]"
    let host : Host :=
      { tree := ⟨[(["extra.json"], .file content.toUTF8)]⟩
        workDir := [], environment := [], tempDir := "/tmp", freshName := "copy", now := ""
        runs := [], log := [], printed := "" }
    Whitelist.ofJson text = .ok names ∧ Whitelist.Refused longer ∧
      Whitelist.Refused ([] ++ (nested.compact ++ [])) ∧
      ∃ whitelist, gatherWhitelist settings (some json) (some "extra.json") host =
          (.ok whitelist, host) ∧
        ∀ selector, selector ∈ whitelist ↔ selector ∈ ["a", "b:", "c"] := by
  intro names nested text longer settings json content host
  obtain ⟨_, _, values, gathers⟩ := whitelist_json_exact
  have blankBefore : Gap "\r\n ".toList := List.all_eq_true.mp (by decide)
  have blankAfter : Gap "\t".toList := List.all_eq_true.mp (by decide)
  obtain ⟨accepted, _, extended⟩ :=
    values (strings names) _ _ _ blankBefore blankAfter (Or.inr rfl)
  obtain ⟨_, refused, _⟩ := values nested [] _ [] gap_nil gap_nil (Or.inl rfl)
  have notStrings : ∀ names, nested ≠ strings names := by
    intro names same
    simp [nested, strings, eq_comm, List.map_eq_cons_iff] at same
  have listed : Whitelist.ofJson json.toList = .ok ["a", "b:", "a"] := by decide +kernel
  have stored : host.readText "extra.json" = .ok content := FileTree.readText_of_file rfl
  have read : readSettingsText host "extra.json" = .ok content := by
    rw [readSettingsText, stored]
    rfl
  have notYaml : isYamlPath "extra.json" = false := by decide +kernel
  have fromFile : host.listedInFile (some "extra.json") = .ok ["c"] := by
    have listedThere : Whitelist.ofJson content.toList = .ok ["c"] := by decide +kernel
    simp only [Host.listedInFile, Whitelist.ofFile, read, notYaml, bind, Except.bind,
      Bool.false_eq_true, if_false, listedThere]
  obtain ⟨gathered, _⟩ := gathers settings json _ (some "extra.json") host listed
  obtain ⟨whitelist, found, members, _⟩ := gathered ["c"] fromFile
  refine ⟨(accepted names).mpr rfl, extended 'x' [] (by decide), refused.mpr notStrings, whitelist,
    found, ?_⟩
  intro selector
  rw [members]
  simp only [Listed, settings, Bool.false_eq_true, false_and, false_or, List.mem_cons,
    List.not_mem_nil, or_false]
  tauto

end DeadSymbols
