import TableSchema.Proofs.Schema.Canonical

namespace TableSchema.Schema

open Grammar TableSchema.Text

/-! Lines of a text -/

theorem IsTextLine.ne_nil {line : List Char} (h : IsTextLine line) : line ≠ [] := by
  obtain ⟨c, hc, -⟩ := h.visible
  exact List.ne_nil_of_mem hc

theorem IsTextLine.not_blank {line : List Char} (h : IsTextLine line) : isBlankLine line = false :=
    by
  obtain ⟨c, hc, hblank⟩ := h.visible
  rw [Bool.eq_false_iff]
  intro hall
  exact absurd (List.all_eq_true.mp hall c hc) (by simp [hblank])

-- A text of lines that say something, with no byte order mark in front, is read
-- line by line.
theorem terminals_intercalate {lines : List String} (h : ∀ line ∈ lines, IsTextLine line.toList)
    (hmark : (String.intercalate "\n" lines).toList.head? = some '@') :
    terminals (String.intercalate "\n" lines) = lines.map fun line => lineTerminals line.toList := by
  have hlines : ∀ line ∈ lines.map String.toList, IsTextLine line := by
    simpa using h
  have hdrop : dropByteOrderMark (String.intercalate "\n" lines).toList =
      (String.intercalate "\n" lines).toList := by
    obtain ⟨rest, hrest⟩ := List.head?_eq_some_iff.mp hmark
    rw [hrest]
    rfl
  have hsplit : splitLines (String.intercalate "\n" lines).toList = lines.map String.toList := by
    rw [String.toList_intercalate]
    exact splitLines_intercalate (fun line hm => (hlines line hm).ne_nil)
      fun line hm => (hlines line hm).unbroken
  have hfilter : (lines.map String.toList).filter (fun line => !isBlankLine line) =
      lines.map String.toList :=
    List.filter_eq_self.mpr fun line hm => by simp [(hlines line hm).not_blank]
  rw [terminals_eq, hdrop, hsplit, hfilter, List.map_map]
  rfl

/-! The total -/

theorem totalOf_lt {token : Token} {total : Nat} (h : (totalOf token).result = .ok total) :
    total < 10 ^ totalLimit := by
  obtain ⟨htotal, hlimit⟩ := totalOf_sound h
  have hdigits : ∀ value ∈ token.text.toList.map (fun c => c.toNat - 0x30), value < 10 := by
    intro value hm
    obtain ⟨c, hc, rfl⟩ := List.mem_map.mp hm
    have hdigit := isAsciiDigit_iff.mp (htotal.digits c hc)
    omega
  have hlt := Number.ofDigits_lt hdigits
  have hvalue := htotal.value
  rw [List.length_map] at hlt
  exact hvalue ▸ Nat.lt_of_lt_of_le hlt (Nat.pow_le_pow_right (by decide) hlimit)

theorem total_lt_of_globalsOf {tokens : List Token} {globals : Globals}
    (h : (globalsOf tokens).result = .ok globals) : globals.total < 10 ^ totalLimit := by
  simp only [globalsOf] at h
  split at h
  · simp only [Parse.result_bind_eq_ok_iff, Parse.result_note, Parse.result_pure, Except.ok.injEq] at h
    obtain ⟨total, htotal, _, -, options, -, rfl⟩ := h
    exact totalOf_lt htotal
  · simp at h

theorem total_lt_of_parse {text : String} {schema : Schema} (h : (parse text).result = .ok schema) :
    schema.total < 10 ^ totalLimit := by
  obtain ⟨first, lines, globals, columns, -, hglobals, -, htotal, -, rfl⟩ := exists_parts_of_parse h
  rw [total, htotal]
  exact total_lt_of_globalsOf hglobals

/-! Writing and reading again -/

theorem terminals_render {schema : Schema} (hglobals : IsTextLine schema.renderGlobals.toList)
    (hcolumns : ∀ column ∈ schema.columns, IsTextLine column.render.toList) :
    terminals schema.render = lineTerminals schema.renderGlobals.toList ::
      schema.columns.map fun column => lineTerminals column.render.toList := by
  obtain ⟨rest, hrest⟩ := exists_cons_of_renderGlobals schema
  have hlines : ∀ line ∈ schema.renderGlobals :: schema.columns.map Column.render,
      IsTextLine line.toList := by
    refine List.forall_mem_cons.mpr ⟨hglobals, ?_⟩
    simpa using hcolumns
  have hmark : schema.render.toList.head? = some '@' := by
    rw [render, String.toList_intercalate, List.map_cons, hrest]
    cases schema.columns <;> simp [List.intercalate_cons_cons]
  rw [render, terminals_intercalate hlines hmark, List.map_cons, List.map_map]
  rfl

-- The columns of a schema that a text stands for are those of its lines, of
-- which there is at least one.
theorem Denotes.exists_lines {text : String} {schema : Schema} (h : Denotes text schema) :
    ∃ first lines, terminals text = first :: lines ∧ List.Forall₂ IsColumn lines schema.columns ∧
      1 ≤ schema.total ∧ ReferencesDefined schema.columns := by
  obtain ⟨hlines, hglobals, hcolumns, htotal, hreferences⟩ := h
  refine ⟨_, _, hlines, hcolumns, ?_, hreferences⟩
  obtain ⟨-, hcount, -, -⟩ := hglobals
  rw [total, htotal]
  exact hcount.positive

theorem Denotes.of_lines {text : String} {schema : Schema} {first : List Terminal}
    {lines : List (List Terminal)} (hlines : terminals text = first :: lines)
    (hglobals : IsGlobals first { total := schema.total, options := schema.options })
    (hcolumns : List.Forall₂ IsColumn lines schema.columns)
    (hreferences : ReferencesDefined schema.columns) : Denotes text schema := by
  have h := Denotes.intro hlines hglobals hcolumns rfl hreferences
  have hheader : (!schema.options.contains .noHeader) = schema.hasHeader := by
    rw [options]
    cases schema.hasHeader <;> cases schema.permitEmpty <;> decide
  have hempty : schema.options.contains .permitEmpty = schema.permitEmpty := by
    rw [options]
    cases schema.hasHeader <;> cases schema.permitEmpty <;> decide
  rwa [hheader, hempty] at h

theorem exists_mem_of_forall₂ {α β : Type} {R : α → β → Prop} {as : List α} {bs : List β} {b : β}
    (h : List.Forall₂ R as bs) (hb : b ∈ bs) : ∃ a ∈ as, R a b := by
  induction h with
  | nil => cases hb
  | cons hr _ ih =>
      rcases List.mem_cons.mp hb with rfl | hb
      · exact ⟨_, by simp, hr⟩
      · obtain ⟨a, ha, hr⟩ := ih hb
        exact ⟨a, List.mem_cons_of_mem _ ha, hr⟩

-- The text that a schema can be written as stands for the schema.
theorem denotes_render {text : String} {schema : Schema} (h : Denotes text schema)
    (hbounds : schema.HasWritableBounds) :
    Denotes schema.render schema ∧
      (terminals schema.render).head? = some (lineTerminals schema.renderGlobals.toList) := by
  obtain ⟨first, lines, hlines, hcolumns, htotal, hreferences⟩ := h.exists_lines
  obtain ⟨hline, hglobals⟩ := renderGlobals_complete htotal
  have hrendered : ∀ column ∈ schema.columns, IsTextLine column.render.toList ∧
      IsColumn (lineTerminals column.render.toList) column := by
    intro column hm
    obtain ⟨given, hgiven, hcolumn⟩ := exists_mem_of_forall₂ hcolumns hm
    have hline : given ∈ terminals text := by
      rw [hlines]
      exact List.mem_cons_of_mem _ hgiven
    exact renderColumn_complete hcolumn (isWritable_of_mem_terminals hline) (hbounds column hm)
  have hterminals := terminals_render hline fun column hm => (hrendered column hm).1
  refine ⟨.of_lines hterminals hglobals ?_ hreferences, by rw [hterminals]; rfl⟩
  rw [List.forall₂_map_left_iff, List.forall₂_same]
  exact fun column hm => (hrendered column hm).2

-- A schema that was read is read again from the text that it can be written as.
theorem parse_render {text : String} {schema : Schema} (h : (parse text).result = .ok schema)
    (hbounds : schema.HasWritableBounds) : (parse schema.render).result = .ok schema := by
  obtain ⟨hdenotes, hfirst⟩ := denotes_render (denotes_of_parse h) hbounds
  refine parse_of_denotes hdenotes (fun first hm => ?_) (depthWithinLimit_of_parse h)
  rw [hfirst] at hm
  obtain rfl := Option.some.inj hm
  exact countWithinLimit_renderGlobals (total_lt_of_parse h)

-- A text that is not written as its schema would be.
def spelledText : String :=
  "@totalcolumns 02 @PermitEmpty\n\nname: is(\"a\\\"b\")or length(0_1) or range(-01E-7,*)@Optional\n" ++
    "code : fileExists() in($name)"

def spelledSchema : Schema where
  hasHeader := true
  permitEmpty := true
  columns := [
    { name := "name"
      rules := [.or (.or (.compare .equal (.text "a\"b")) (.length (.exactly 1)))
        (.range (some (.finite true 1 (-7))) none)]
      directives := [.isOptional] },
    { name := "code"
      rules := [.fileExists none, .compare .within (.column "name")]
      directives := [] }]

theorem terminals_spelledText :
    terminals spelledText = [
      [⟨.directive, "totalcolumns"⟩, ⟨.word, "02"⟩, ⟨.directive, "PermitEmpty"⟩, ⟨.endOfLine, ""⟩],
      [⟨.word, "name"⟩, ⟨.colon, ":"⟩, ⟨.word, "is"⟩, ⟨.opening, "("⟩, ⟨.text, "a\"b"⟩,
        ⟨.closing, ")"⟩, ⟨.word, "or"⟩, ⟨.word, "length"⟩, ⟨.opening, "("⟩, ⟨.word, "0_1"⟩,
        ⟨.closing, ")"⟩, ⟨.word, "or"⟩, ⟨.word, "range"⟩, ⟨.opening, "("⟩, ⟨.word, "-01E-7"⟩,
        ⟨.comma, ","⟩, ⟨.word, "*"⟩, ⟨.closing, ")"⟩, ⟨.directive, "Optional"⟩, ⟨.endOfLine, ""⟩],
      [⟨.word, "code"⟩, ⟨.colon, ":"⟩, ⟨.word, "fileExists"⟩, ⟨.opening, "("⟩, ⟨.closing, ")"⟩,
        ⟨.word, "in"⟩, ⟨.opening, "("⟩, ⟨.column, "name"⟩, ⟨.closing, ")"⟩, ⟨.endOfLine, ""⟩]] := by
  cbv

theorem denotes_spelledText : Denotes spelledText spelledSchema := by
  have htotal : IsTotal ⟨.word, "02"⟩ 2 :=
    ⟨rfl, by decide, List.all_eq_true.mp (by decide), by decide, by decide⟩
  have hequal : IsRule [⟨.word, "is"⟩, ⟨.opening, "("⟩, ⟨.text, "a\"b"⟩, ⟨.closing, ")"⟩]
      (.compare .equal (.text "a\"b")) :=
    .intro (.applied (.compare .equal) "(" ")" (.last (.text _))) rfl
  have hlength : IsRule [⟨.word, "length"⟩, ⟨.opening, "("⟩, ⟨.word, "0_1"⟩, ⟨.closing, ")"⟩]
      (.length (.exactly 1)) :=
    .intro (.applied .length "(" ")" (.last (.bare _))) (by cbv)
  have hspelling : ∀ c ∈ "1E-7".toList, Number.Decimal.IsSpelling c := by
    have hall : ("1E-7".toList.all fun c => decide (Number.Decimal.IsSpelling c)) = true := by decide
    exact fun c hm => of_decide_eq_true (List.all_eq_true.mp hall c hm)
  have hfinite :
      Number.Decimal.readFinite? true ('0' :: "1E-7".toList) = some (.finite true 1 (-7)) := by
    cbv
  have hbound : Number.Decimal.ofText? "-01E-7".toList = some (.finite true 1 (-7)) := by
    rw [← hfinite, ← Number.Decimal.ofText?_of_isAsciiDigit true (by decide) hspelling]
    simp [Number.Decimal.signText]
  have hlow : Rule.rangeBound (.bare "-01E-7") = .ok (some (.finite true 1 (-7))) := by
    simp only [Rule.rangeBound, Rule.boundOf, hbound]
    rfl
  have hrange : IsRule [⟨.word, "range"⟩, ⟨.opening, "("⟩, ⟨.word, "-01E-7"⟩, ⟨.comma, ","⟩,
      ⟨.word, "*"⟩, ⟨.closing, ")"⟩] (.range (some (.finite true 1 (-7))) none) :=
    .intro (.applied .range "(" ")" (.more (.bare _) (.last (.bare _))))
      (by simp only [Rule.build, Rule.buildRange, hlow]; rfl)
  have hexists : IsRule [⟨.word, "fileExists"⟩, ⟨.opening, "("⟩, ⟨.closing, ")"⟩] (.fileExists none) :=
    .intro (.empty .fileExists "(" ")") rfl
  have hwithin : IsRule [⟨.word, "in"⟩, ⟨.opening, "("⟩, ⟨.column, "name"⟩, ⟨.closing, ")"⟩]
      (.compare .within (.column "name")) :=
    .intro (.applied (.compare .within) "(" ")" (.last (.column _))) rfl
  have hglobals : IsGlobals [⟨.directive, "totalcolumns"⟩, ⟨.word, "02"⟩, ⟨.directive, "PermitEmpty"⟩,
      ⟨.endOfLine, ""⟩] { total := 2, options := [.permitEmpty] } :=
    .intro (by decide) htotal (.cons ⟨rfl, by decide⟩ .nil) (by decide)
  refine .of_lines terminals_spelledText hglobals (.cons ?_ (.cons ?_ .nil)) ?_
  · exact .intro (.cons (.or (.or (.rule hequal) hlength) hrange) .nil) (.cons ⟨rfl, by decide⟩ .nil)
      (by decide)
  · exact .intro (.cons (.rule hexists) (.cons (.rule hwithin) .nil)) .nil (by decide)
  · simp [ReferencesDefined, spelledSchema, Rule.references, Rule.arguments, Operand.toArgument]

-- A text with its own spelling of numbers, names and spaces.
theorem parse_render_of_spelledText :
    (parse spelledText).result = .ok spelledSchema ∧ spelledSchema.HasWritableBounds ∧
      (parse spelledSchema.render).result = .ok spelledSchema := by
  have hparse : (parse spelledText).result = .ok spelledSchema := by
    refine parse_of_denotes denotes_spelledText (fun first hm => ?_) (by decide)
    rw [terminals_spelledText] at hm
    obtain rfl := Option.some.inj hm
    simp [CountWithinLimit, totalLimit]
  have hbounds : spelledSchema.HasWritableBounds := by
    have hrender : (Number.Decimal.finite true 1 (-7)).render = "-1E-7" := by cbv
    have hbound : Number.Decimal.IsWritable (.finite true 1 (-7)) :=
      ⟨rfl, by rw [hrender]; decide⟩
    simpa [Schema.HasWritableBounds, spelledSchema, Rule.rangeBounds] using hbound
  exact ⟨hparse, hbounds, parse_render hparse hbounds⟩

end TableSchema.Schema
