import DeadSymbols.Proofs.Report.Markup
import DeadSymbols.Report.Clock

/-!
Contract: no name can break a page.

Each part of a page is the text of some tags. Names are escaped in it, so they add no bracket, and the time
and the version, which are not escaped, are made of characters that open no tag. So a page is read as the
tags it was written from, whatever its names say, and the cells of its tables give the names back.

Owns: the tags of a page, its tables, `skeleton`.
-/

namespace DeadSymbols.Report.Html

open DeadSymbols.Text

/-! ### Tables -/

/-- A table of a page: its title, the number in its heading, and the decoded texts of its rows. -/
structure Table where
  title : String
  count : Nat
  rows : List String
deriving DecidableEq, Repr

/-- The rows at the start of some tags. -/
def rows : List Tag → List String
  | start :: cell :: stop :: last :: rest =>
    if start = { name := "tr", text := [] } ∧ cell.name = "td" ∧ stop = { name := "/td", text := [] } ∧
        last.name = "/tr" then
      String.ofList (decode cell.text) :: rows rest
    else []
  | _ => []

/-- The table with the given heading. The title ends before a blank and the bracket of the number. -/
def Table.read (heading : List Char) (rows : List String) : Table :=
  { title := String.ofList (heading.takeWhile (· != '(')).dropLast
    count := Nat.ofDigitChars 10 (heading.filter Char.isDigit) 0
    rows }

/-- The tables under the headings of a page. -/
def tables : List Tag → List Table
  | [] => []
  | tag :: rest =>
    if (tag :: rest.take 2).map Tag.name = ["h2", "/h2", "table"] then
      Table.read tag.text (rows (rest.drop 2)) :: tables rest
    else tables rest

theorem tables_cons_of_ne {tag : Tag} (noHeading : tag.name ≠ "h2") (rest : List Tag) :
    tables (tag :: rest) = tables rest := by
  rw [tables, if_neg (by simp [noHeading])]

theorem tables_append {front : List Tag} (noHeading : ∀ tag ∈ front, tag.name ≠ "h2")
    (rest : List Tag) : tables (front ++ rest) = tables rest := by
  induction front with
  | nil => rfl
  | cons tag front inductionHypothesis =>
      obtain ⟨here, later⟩ := List.forall_mem_cons.mp noHeading
      rw [List.cons_append, tables_cons_of_ne here, inductionHypothesis later]

/-! ### Pages as tags

The literals of a page are split at its tags by evaluation. The definitions are opened by `delta` and
`change`, which leave the literals as they are. -/

/-- The tags of a row. -/
def rowTags (entry : String) : List Tag :=
  [{ name := "tr", text := [] }, { name := "td", text := escape entry.toList },
   { name := "/td", text := [] }, { name := "/tr", text := ['\n'] }]

/-- The heading of a table. -/
def heading (title : String) (count : Nat) : List Char :=
  title.toList ++ " (".toList ++ Nat.toDigits 10 count ++ ")".toList

/-- The tags of a table. -/
def tableTags (title : String) (entries : List String) : List Tag :=
  [{ name := "div", text := [] }, { name := "h2", text := heading title entries.length },
   { name := "/h2", text := [] }, { name := "table", text := ['\n'] }] ++
  entries.flatMap rowTags ++
  [{ name := "/table", text := [] }, { name := "/div", text := ['\n'] }]

/-- The style sheet of a page. -/
def styleSheet : List Char :=
  "table \x7b width: 100%; border-right: 1px solid #490; border-bottom: 1px solid #490; \x7d\n".toList ++
    "table td \x7b border-left: 1px solid #490; border-top: 1px solid #490; \x7d\n".toList

/-- The tags of the head of a page, for an escaped name and a style sheet. -/
def headTags (name style : List Char) : List Tag :=
  [{ name := "html", text := ['\n'] }, { name := "head", text := ['\n'] },
   { name := "meta http-equiv=\"Content-Type\" content=\"text/html; charset=utf-8\"", text := ['\n'] },
   { name := "title", text := name ++ " analysis results".toList },
   { name := "/title", text := ['\n'] },
   { name := "style type=\"text/css\"", text := '\n' :: style },
   { name := "/style", text := ['\n'] }, { name := "/head", text := ['\n'] },
   { name := "body", text := ['\n'] }]

/-- What a page says about the image it is about. -/
def digestText : Option String → List Char
  | some digest => " (sha256 ".toList ++ escape digest.toList ++ ")".toList
  | none => []

/-- The tags of the line about the report itself. -/
def originTags (context : Context) : List Tag :=
  [{ name := "p"
     text := "Generated ".toList ++ context.generatedAt.toList ++ " by machsweep ".toList ++
      context.toolVersion.toList ++ digestText context.binaryDigest },
   { name := "/p", text := ['\n'] }]

/-- The tags of a page. -/
def pageTags (context : Context) (findings : Findings) : List Tag :=
  headTags (escape context.binaryName.toList) styleSheet ++ originTags context ++
    tableTags "Possibly unused methods" findings.unusedMethods ++
    tableTags "Possibly unused classes" findings.unusedClasses ++
    [{ name := "/body", text := ['\n'] }, { name := "/html", text := ['\n'] }]

theorem row_eq (entry : String) : row entry = (rowTags entry).flatMap Tag.write := by
  change "<tr><td>".toList ++ escape entry.toList ++ "</td></tr>\n".toList = _
  simp [rowTags, Tag.write]

theorem table_eq (title : String) (entries : List String) :
    table title entries = (tableTags title entries).flatMap Tag.write := by
  have body : entries.flatMap row = (entries.flatMap rowTags).flatMap Tag.write := by
    rw [List.flatMap_assoc]
    exact congrArg entries.flatMap (funext row_eq)
  delta table
  rw [body]
  simp [tableTags, Tag.write, heading]

theorem head_eq (binaryName : String) :
    head binaryName = (headTags (escape binaryName.toList) styleSheet).flatMap Tag.write := by
  -- The rules of the style sheet stay variables: they are long, and nothing depends on them.
  have shape (name firstRule secondRule : List Char) :
      "<html>\n<head>\n".toList ++
        "<meta http-equiv=\"Content-Type\" content=\"text/html; charset=utf-8\">\n".toList ++
        "<title>".toList ++ name ++
        (" analysis results</title>\n".toList ++ "<style type=\"text/css\">\n".toList ++ firstRule ++
          secondRule ++ "</style>\n</head>\n<body>\n".toList) =
      (headTags name (firstRule ++ secondRule)).flatMap Tag.write := by
    simp [headTags, Tag.write]
  delta head
  simp only [String.toList_append]
  exact shape _ _ _

theorem origin_eq (context : Context) :
    origin context = (originTags context).flatMap Tag.write := by
  have shape (time version digest : List Char) :
      "<p>Generated ".toList ++ time ++ " by machsweep ".toList ++ version ++ digest ++
        "</p>\n".toList =
      Tag.write
          { name := "p"
            text := "Generated ".toList ++ time ++ " by machsweep ".toList ++ version ++ digest } ++
        Tag.write { name := "/p", text := ['\n'] } := by
    simp [Tag.write]
  have tags : (originTags context).flatMap Tag.write =
      "<p>Generated ".toList ++ context.generatedAt.toList ++ " by machsweep ".toList ++
        context.toolVersion.toList ++ digestText context.binaryDigest ++ "</p>\n".toList := by
    rw [shape, originTags, List.flatMap_cons, List.flatMap_singleton]
  rw [tags]
  delta origin
  cases context.binaryDigest with
  | none => rfl
  | some digest => rfl

/-- A page is the text of its tags. -/
theorem render_eq (context : Context) (findings : Findings) :
    render context findings = (pageTags context findings).flatMap Tag.write := by
  have closing : "</body>\n</html>\n".toList =
      [{ name := "/body", text := ['\n'] }, { name := "/html", text := ['\n'] }].flatMap Tag.write := by
    decide
  simp only [pageTags, List.flatMap_append, ← head_eq, ← origin_eq, ← table_eq, ← closing]
  rfl

/-! ### Brackets of a page -/

theorem bracket_not_mem_escape (text : List Char) : '<' ∉ escape text :=
  not_mem_escape (show ("&lt;".toList, '<') ∈ entities by decide) (by decide) text

theorem bracket_not_mem_heading {title : String} (plain : '<' ∉ title.toList) (count : Nat) :
    '<' ∉ heading title count := by
  have digits : '<' ∉ Nat.toDigits 10 count := not_mem_toDigits (by decide) count
  simp [heading, plain, digits]

theorem bracket_not_mem_digestText (digest : Option String) : '<' ∉ digestText digest := by
  cases digest with
  | none => exact List.not_mem_nil
  | some digest =>
      change '<' ∉ " (sha256 ".toList ++ escape digest.toList ++ ")".toList
      simp [bracket_not_mem_escape]

theorem closed_rowTags (entry : String) : ∀ tag ∈ rowTags entry, tag.Closed := by
  simp [rowTags, Tag.closed_iff, bracket_not_mem_escape]

theorem closed_tableTags {title : String} (plain : '<' ∉ title.toList) (entries : List String) :
    ∀ tag ∈ tableTags title entries, tag.Closed := by
  have body : ∀ tag ∈ entries.flatMap rowTags, tag.Closed :=
    List.forall_mem_flatMap.mpr fun entry _ => closed_rowTags entry
  rw [tableTags, List.forall_mem_append, List.forall_mem_append]
  refine ⟨⟨?_, body⟩, ?_⟩
  · simp [Tag.closed_iff, bracket_not_mem_heading plain]
  · simp [Tag.closed_iff]

theorem closed_headTags {name style : List Char} (plainName : '<' ∉ name) (plainStyle : '<' ∉ style) :
    ∀ tag ∈ headTags name style, tag.Closed := by
  simp [headTags, Tag.closed_iff, plainName, plainStyle]

theorem closed_originTags {context : Context} (time : '<' ∉ context.generatedAt.toList)
    (version : '<' ∉ context.toolVersion.toList) : ∀ tag ∈ originTags context, tag.Closed := by
  simp [originTags, Tag.closed_iff, time, version, bracket_not_mem_digestText]

/-- A page is read as the tags it was written from. -/
theorem tags_render {context : Context} (time : '<' ∉ context.generatedAt.toList)
    (version : '<' ∉ context.toolVersion.toList) (findings : Findings) :
    tags (render context findings) = pageTags context findings := by
  have style : '<' ∉ styleSheet := by
    delta styleSheet
    simp
  rw [render_eq, tags_flatMap_write]
  rw [pageTags, List.forall_mem_append, List.forall_mem_append, List.forall_mem_append,
    List.forall_mem_append]
  refine ⟨⟨⟨⟨closed_headTags (bracket_not_mem_escape _) style, closed_originTags time version⟩,
    closed_tableTags (by decide) _⟩, closed_tableTags (by decide) _⟩, ?_⟩
  simp [Tag.closed_iff]

/-! ### Tables of a page -/

theorem Table.read_heading {title : String} (plain : ∀ c ∈ title.toList, c ≠ '(' ∧ c.isDigit = false)
    (count : Nat) (rows : List String) : Table.read (heading title count) rows = { title, count, rows } := by
  have cut : (heading title count).takeWhile (· != '(') = title.toList ++ [' '] := by
    have shape : heading title count =
        (title.toList ++ [' ']) ++ '(' :: (Nat.toDigits 10 count ++ ")".toList) := by
      simp [heading]
    rw [shape]
    refine takeWhile_append_stops ?_ (stops_cons.mpr (by decide))
    intro c member
    rcases List.mem_append.mp member with inTitle | blank
    · exact bne_iff_ne.mpr (plain c inTitle).1
    · rw [List.mem_singleton.mp blank]
      decide
  have digits : (heading title count).filter Char.isDigit = Nat.toDigits 10 count := by
    have none : title.toList.filter Char.isDigit = [] := by
      rw [List.filter_eq_nil_iff]
      intro c member
      simp [(plain c member).2]
    have all : (Nat.toDigits 10 count).filter Char.isDigit = Nat.toDigits 10 count := by
      rw [List.filter_eq_self]
      intro c member
      exact Nat.isDigit_of_mem_toDigits (by decide) (by decide) member
    simp [heading, none, all]
  rw [Table.read, cut, digits, List.dropLast_concat, String.ofList_toList,
    Nat.ofDigitChars_ten_toDigits]

theorem rows_of_ne {tag : Tag} (noRow : tag.name ≠ "tr") (rest : List Tag) : rows (tag :: rest) = [] := by
  have other : tag ≠ { name := "tr", text := [] } := fun same => noRow (congrArg Tag.name same)
  unfold rows
  split <;> simp_all

theorem rows_flatMap {last : Tag} (noRow : last.name ≠ "tr") (entries : List String) (rest : List Tag) :
    rows (entries.flatMap rowTags ++ last :: rest) = entries := by
  induction entries with
  | nil => exact rows_of_ne noRow rest
  | cons entry entries inductionHypothesis =>
      rw [List.flatMap_cons, List.append_assoc]
      simp [rowTags, rows, decode_escape, inductionHypothesis]

theorem tables_tableTags {title : String} (plain : ∀ c ∈ title.toList, c ≠ '(' ∧ c.isDigit = false)
    (entries : List String) (rest : List Tag) :
    tables (tableTags title entries ++ rest) =
      { title, count := entries.length, rows := entries } :: tables rest := by
  have body : ∀ tag ∈ entries.flatMap rowTags, tag.name ≠ "h2" := by
    rw [List.forall_mem_flatMap]
    simp [rowTags]
  simp only [tableTags, List.append_assoc, List.cons_append, List.nil_append]
  -- The heading is the second tag; behind it there are only rows and closing tags.
  rw [tables_cons_of_ne (by decide), tables, if_pos (by simp), List.drop_succ_cons, List.drop_succ_cons,
    List.drop_zero, rows_flatMap (by decide), Table.read_heading plain]
  rw [tables_cons_of_ne (by decide), tables_cons_of_ne (by decide), tables_append body,
    tables_cons_of_ne (by decide), tables_cons_of_ne (by decide)]

theorem tables_pageTags (context : Context) (findings : Findings) :
    tables (pageTags context findings) =
      [{ title := "Possibly unused methods"
         count := findings.unusedMethods.length
         rows := findings.unusedMethods },
       { title := "Possibly unused classes"
         count := findings.unusedClasses.length
         rows := findings.unusedClasses }] := by
  have head (name style : List Char) : ∀ tag ∈ headTags name style, tag.name ≠ "h2" := by
    simp [headTags]
  have origin : ∀ tag ∈ originTags context, tag.name ≠ "h2" := by
    simp [originTags]
  rw [pageTags, List.append_assoc, List.append_assoc, List.append_assoc, tables_append (head _ _),
    tables_append origin, tables_tableTags (by simp), tables_tableTags (by simp)]
  rfl

/-! ### The shape of a page -/

/-- The names of the tags of a table. -/
def tableNames (rows : Nat) : List String :=
  ["div", "h2", "/h2", "table"] ++ (List.replicate rows ["tr", "td", "/td", "/tr"]).flatten ++
    ["/table", "/div"]

/-- The names of the tags of a page whose tables have the given numbers of rows. -/
def skeleton (methods classes : Nat) : List String :=
  ["html", "head", "meta http-equiv=\"Content-Type\" content=\"text/html; charset=utf-8\"", "title",
    "/title", "style type=\"text/css\"", "/style", "/head", "body", "p", "/p"] ++
  tableNames methods ++ tableNames classes ++ ["/body", "/html"]

theorem names_tableTags (title : String) (entries : List String) :
    (tableTags title entries).map Tag.name = tableNames entries.length := by
  have body : (entries.flatMap rowTags).map Tag.name =
      (List.replicate entries.length ["tr", "td", "/td", "/tr"]).flatten := by
    induction entries with
    | nil => rfl
    | cons entry entries inductionHypothesis =>
        rw [List.flatMap_cons, List.map_append, inductionHypothesis]
        rfl
  rw [tableTags, List.map_append, List.map_append, body]
  rfl

theorem names_pageTags (context : Context) (findings : Findings) :
    (pageTags context findings).map Tag.name =
      skeleton findings.unusedMethods.length findings.unusedClasses.length := by
  rw [pageTags, List.map_append, List.map_append, List.map_append, names_tableTags, names_tableTags]
  rfl

/-! ### Times -/

theorem bracket_not_mem_digits (width n : Nat) : '<' ∉ (digits width n).toList := by
  have number : '<' ∉ Nat.toDigits 10 n := not_mem_toDigits (by decide) n
  simp [digits, number]

theorem bracket_not_mem_fraction (nanoseconds : Nat) : '<' ∉ (fraction nanoseconds).toList := by
  unfold fraction
  split_ifs <;> simp [bracket_not_mem_digits]

theorem bracket_not_mem_timestamp (nanoseconds : Nat) : '<' ∉ (timestamp nanoseconds).toList := by
  simp only [timestamp, String.toList_append, List.mem_append, bracket_not_mem_digits,
    bracket_not_mem_fraction, false_or, or_false]
  decide

/-! ### No name breaks a page -/

/-- A page whose time and version open no tag, as those of a run, is made of its tags. Its tables have
the reported names in their rows, with their numbers in the headings, and the names of its tags depend
on these numbers only. An escaped text holds no bracket and no quote, each ampersand in it opens an
entity, and decoding gives the text back. -/
theorem names_break_no_page :
    (∀ (context : Context) (findings : Findings), '<' ∉ context.generatedAt.toList →
        '<' ∉ context.toolVersion.toList →
        let page := render context findings
        (tags page).flatMap Tag.write = page ∧
          tables (tags page) =
            [{ title := "Possibly unused methods"
               count := findings.unusedMethods.length
               rows := findings.unusedMethods },
             { title := "Possibly unused classes"
               count := findings.unusedClasses.length
               rows := findings.unusedClasses }] ∧
          (tags page).map Tag.name =
            skeleton findings.unusedMethods.length findings.unusedClasses.length) ∧
      (∀ nanoseconds, '<' ∉ (timestamp nanoseconds).toList) ∧ '<' ∉ toolVersion.toList ∧
      ∀ text : List Char,
        (∀ c ∈ ['<', '>', '"', '\''], c ∉ escape text) ∧
          (∀ rest, '&' :: rest <:+ escape text → ∃ entity ∈ entities, entity.1 <+: '&' :: rest) ∧
          decode (escape text) = text := by
  refine ⟨?_, bracket_not_mem_timestamp, by decide, ?_⟩
  · intro context findings time version page
    have read : tags page = pageTags context findings := tags_render time version findings
    rw [read]
    exact ⟨(render_eq context findings).symm, tables_pageTags context findings,
      names_pageTags context findings⟩
  · intro text
    refine ⟨?_, ampersand_opens_entity text, decode_escape text⟩
    intro c marked
    have isEntity : ∃ name, (name, c) ∈ entities ∧ c ≠ '&' := by
      simp only [List.mem_cons, List.not_mem_nil, or_false] at marked
      rcases marked with rfl | rfl | rfl | rfl
      · exact ⟨"&lt;".toList, by decide⟩
      · exact ⟨"&gt;".toList, by decide⟩
      · exact ⟨"&quot;".toList, by decide⟩
      · exact ⟨"&#39;".toList, by decide⟩
    obtain ⟨name, member, other⟩ := isEntity
    exact not_mem_escape member other text

/-- Names that close the table they stand in, or look escaped already. -/
theorem names_break_no_page_markup :
    let context : Context :=
      { binaryName := "</title><h2>", binaryDigest := some "<p>", generatedAt := timestamp 0, toolVersion }
    let findings : Findings :=
      { unusedMethods := ["</td></tr></table>", "&amp;lt;"], unusedClasses := ["<tr><td>'\"</td></tr>"] }
    '<' ∉ context.generatedAt.toList ∧ '<' ∉ context.toolVersion.toList ∧
      tables (tags (render context findings)) =
        [{ title := "Possibly unused methods", count := 2, rows := ["</td></tr></table>", "&amp;lt;"] },
         { title := "Possibly unused classes", count := 1, rows := ["<tr><td>'\"</td></tr>"] }] := by
  intro context findings
  have time : '<' ∉ context.generatedAt.toList := bracket_not_mem_timestamp 0
  have version : '<' ∉ context.toolVersion.toList := by decide
  exact ⟨time, version, (names_break_no_page.1 context findings time version).2.1⟩

end DeadSymbols.Report.Html
