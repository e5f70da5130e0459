import SqlSelect.CommandLine.Run
import SqlSelect.Proofs.DocumentJson
import SqlSelect.Proofs.Indented
import SqlSelect.Proofs.Shown
/-!
# What is printed keeps the arguments

A query is printed in one of two layouts. The JSON output is read back as the query that it was
printed from. In the SQL output the arguments stand on a line of their own, and two lists of arguments
that differ have lines that differ.

* `Query.ofJson?` -- reads a query from an object of its text and its arguments;
* `ofJson?_jsonText` -- the JSON output is read back;
* `argsLine?` -- the line of arguments, which is left out where there are none;
* `onOneLine_argsLine?`, `argsLine?_cancel` -- it is one line, and it tells its arguments;
* `rendered?` -- the query that a file is rendered to, whatever the layout is;
* `outputs_keep_arguments` -- both outputs of a run.
-/

namespace SqlSelect

/-! ## 1. Queries in JSON -/

namespace Value

/-- The value that a tree is. The kinds are tried in their order, and an integer, which could be read
as a floating-point number too, is met as an integer first. -/
def ofData? (d : Data) : Option Value :=
  null? d <|> bool? d <|> d.int?.map .int <|> float? d <|> d.text?.map .text
where
  null? : Data → Option Value
    | .scalar .null => some .null
    | _ => none
  bool? : Data → Option Value
    | .scalar (.bool b) => some (.bool b)
    | _ => none
  float? : Data → Option Value
    | .scalar (.float x) => some (.float x)
    | .scalar (.int n) => some (.float n.toFloat)
    | _ => none

/-- Every value is read back as a value of its own kind. -/
theorem readsBack : ReadsBack Data.scalar ofData? := by
  intro v
  cases v <;> rfl

end Value

namespace Query

/-- Reads a query from an object of its text and its arguments. -/
def ofData? (d : Data) : Option Query :=
  match Data.fields? ["sql", "args"] d with
  | some [sql, args] => do
    some { sql := (← Data.required Data.text? sql)
           args := (← Data.required (Data.list? Value.ofData?) args) }
  | _ => none

/-- Reads a query from JSON. -/
def ofJson? (s : String) : Option Query := do ofData? (← Json.read? s)

theorem readsBack : ReadsBack CommandLine.queryData ofData? := by
  intro q
  have fields : Data.fields? ["sql", "args"] (CommandLine.queryData q)
      = some [some (.ofText q.sql), some (.array (q.args.map .scalar))] :=
    Data.fields?_object rfl (by decide)
  rw [ofData?, fields]
  simp [Value.readsBack.list]

end Query

namespace CommandLine

open Text (OnOneLine)

theorem isExact_queryData (q : Query) :
    (queryData q).IsExact ↔ ∀ v ∈ q.args, v.isFloat = false := by
  simp [queryData]

/-- A query is nested no deeper than its list of arguments. -/
theorem depth_queryData (q : Query) : (queryData q).depth ≤ Json.nestingLimit := by
  have flat : Data.itemDepth (q.args.map .scalar) = 0 := by
    induction q.args with
    | nil => rfl
    | cons v args ih => rw [List.map_cons, Data.itemDepth, Data.depth, ih, Nat.max_self]
  simp [queryData, Data.depth, Data.memberDepth, Data.ofText, flat, Json.nestingLimit]

/-- **A query is read back from its JSON output.** -/
theorem ofJson?_jsonText {q : Query} (exact : ∀ v ∈ q.args, v.isFloat = false) :
    Query.ofJson? (jsonText q) = some q := by
  have blank : Json.Blank ("\n" : String).toList := List.forall_mem_singleton.2 rfl
  have tree : Json.read? (jsonText q) = some (queryData q) :=
    Json.readWithin_pretty ((isExact_queryData q).2 exact) (depth_queryData q) blank
  rw [Query.ofJson?, tree]
  exact q.readsBack

/-! ## 2. The line of arguments -/

/-- What stands on the line behind the first argument. -/
def row : List Value → List Char
  | [] => [']']
  | v :: args => [',', ' '] ++ (v.display.toList ++ row args)

theorem toList_argsLine (v : Value) (args : List Value) :
    (argsLine (v :: args)).toList
      = ("-- args: [" : String).toList ++ (v.display.toList ++ row args) := by
  have shown : (", ".intercalate ((v :: args).map Value.display)).toList ++ [']']
      = v.display.toList ++ row args := by
    induction args generalizing v with
    | nil => simp [row]
    | cons w args ih =>
      have behind := ih w
      rw [List.map_cons] at behind ⊢
      rw [List.map_cons, String.intercalate_cons_cons]
      simp only [String.toList_append, List.append_assoc, behind, row]
      rfl
  rw [argsLine, String.toList_append, String.toList_append, List.append_assoc, ← shown]
  rfl

theorem endsInteger_row (args : List Value) : Json.EndsInteger (row args) := by
  cases args with
  | nil => exact .cons (by decide) _
  | cons v args => exact .cons (by decide) _

/-- **Rows of shown values cancel.** -/
theorem row_cancel {args args' : List Value} (exact : ∀ v ∈ args, v.isFloat = false)
    (exact' : ∀ v ∈ args', v.isFloat = false) (h : row args = row args') : args = args' := by
  induction args generalizing args' with
  | nil =>
    cases args' with
    | nil => rfl
    | cons w args' => cases h
  | cons v args ih =>
    cases args' with
    | nil => cases h
    | cons w args' =>
      obtain ⟨hv, hargs⟩ := List.forall_mem_cons.1 exact
      obtain ⟨hw, hargs'⟩ := List.forall_mem_cons.1 exact'
      obtain ⟨rfl, behind⟩ := Value.display_cancel hv hw (endsInteger_row args)
        (endsInteger_row args') (List.append_cancel_left h)
      rw [ih hargs hargs' behind]

/-- The line that the SQL output has for the arguments, none if there are none. -/
def argsLine? (args : List Value) : Option String :=
  if args.isEmpty then none else some (argsLine args)

theorem argsLine?_cancel {args args' : List Value} (exact : ∀ v ∈ args, v.isFloat = false)
    (exact' : ∀ v ∈ args', v.isFloat = false) (h : argsLine? args = argsLine? args') :
    args = args' := by
  cases args with
  | nil =>
    cases args' with
    | nil => rfl
    | cons w args' => cases h
  | cons v args =>
    cases args' with
    | nil => cases h
    | cons w args' =>
      have lines := congrArg String.toList (Option.some.inj h)
      rw [toList_argsLine, toList_argsLine] at lines
      -- with a comma in front, what stands behind the bracket is a row
      exact row_cancel exact exact' (congrArg ([',', ' '] ++ ·) (List.append_cancel_left lines))

theorem onOneLine_row {args : List Value} (exact : ∀ v ∈ args, v.isFloat = false) :
    OnOneLine (row args) := by
  have comma : OnOneLine [',', ' '] := by decide
  induction args with
  | nil => decide
  | cons v args ih =>
    obtain ⟨hv, hargs⟩ := List.forall_mem_cons.1 exact
    exact comma.append ((Value.onOneLine_display hv).append (ih hargs))

/-- **The line of arguments is one line**, whatever the texts among them are. -/
theorem onOneLine_argsLine? {args : List Value} (exact : ∀ v ∈ args, v.isFloat = false) :
    ∀ line ∈ argsLine? args, OnOneLine line.toList := by
  intro line hline
  cases args with
  | nil => cases hline
  | cons v args =>
    obtain ⟨hv, hargs⟩ := List.forall_mem_cons.1 exact
    have opening : OnOneLine ("-- args: [" : String).toList := by decide
    cases hline
    rw [toList_argsLine]
    exact opening.append ((Value.onOneLine_display hv).append (onOneLine_row hargs))

theorem sqlText_eq (q : Query) :
    sqlText q = q.sql ++ "\n" ++ (argsLine? q.args).elim "" (· ++ "\n") := by
  cases hargs : q.args.isEmpty <;> simp [sqlText, argsLine?, hargs]

/-! ## 3. Both outputs -/

/-- The query that the document of a file is rendered to, if nothing fails. -/
def rendered? (around : Surroundings) (settings : Settings) (file : String)
    (dialect : Option BaseDialect) : Option Query := do
  let (registry, configured) ← settings.session?.toOption
  let document ← (documentOf? around.read file).toOption
  (document.render registry ((dialect.map BaseDialect.toDialect).getD configured)).toOption

theorem render_of_rendered? {around : Surroundings} {settings : Settings} {file : String}
    {dialect : Option BaseDialect} {q : Query} (h : rendered? around settings file dialect = some q)
    (output : Output) :
    render around settings file dialect output = { exit := 0, stdout := queryText output q } := by
  rw [rendered?] at h
  rw [render]
  cases session : settings.session? with
  | error e =>
    rw [session] at h
    cases h
  | ok opened =>
    rw [session] at h
    cases read : documentOf? around.read file with
    | error e =>
      rw [read] at h
      cases h
    | ok document =>
      rw [read] at h
      change (document.render opened.1
        ((dialect.map BaseDialect.toDialect).getD opened.2)).toOption = some q at h
      cases query : document.render opened.1
          ((dialect.map BaseDialect.toDialect).getD opened.2) with
      | error e =>
        rw [query] at h
        cases h
      | ok q' =>
        rw [query] at h
        cases h
        simp only [query]

/-- **Both outputs keep the arguments.** A query that was rendered is printed in either layout. From the
JSON output it is read back as it was. The SQL output has its text and, behind that, a line for the
arguments if there are any; this is one line whatever the texts among them are, and other arguments
have another line. Floating-point numbers are left out: those without a fraction are shown as integers
are. -/
theorem outputs_keep_arguments {q : Query} (exact : ∀ v ∈ q.args, v.isFloat = false) :
    (∀ around settings file dialect, rendered? around settings file dialect = some q → ∀ output,
      render around settings file dialect output = { exit := 0, stdout := queryText output q }) ∧
    Query.ofJson? (queryText .json q) = some q ∧
    queryText .sql q = q.sql ++ "\n" ++ (argsLine? q.args).elim "" (· ++ "\n") ∧
    (∀ line ∈ argsLine? q.args, OnOneLine line.toList) ∧
    ∀ args, (∀ v ∈ args, v.isFloat = false) → argsLine? args = argsLine? q.args →
      args = q.args :=
  ⟨fun _ _ _ _ rendered output => render_of_rendered? rendered output, ofJson?_jsonText exact,
    sqlText_eq q, onOneLine_argsLine? exact, fun _ exact' same => argsLine?_cancel exact' exact same⟩

/-- One declared entity. -/
def box : Settings where
  entities := .ofList [("box", { columns := ["Id"] })]

/-- A file with an argument that looks like several, and with texts that look like other values. -/
def lookalikes : Surroundings where
  read _ := .text (QueryDocument.toJson
    { statement :=
        { entity := some "box"
          select := [.raw { sql := "?, ?, ?, ?"
                            args := [.text "1\", \"2", .text "NULL\r\n", .null, .int (-7)] }] } })
  config := none
  userConfig := none

theorem outputs_keep_arguments_lookalikes :
    ∃ q, rendered? lookalikes box "q.json" none = some q ∧ (∀ v ∈ q.args, v.isFloat = false) ∧
      (∀ output, render lookalikes box "q.json" none output
        = { exit := 0, stdout := queryText output q }) ∧
      Query.ofJson? (queryText .json q) = some q ∧
      queryText .sql q = "SELECT ?, ?, ?, ? FROM `box`;\n" ++
        "-- args: [\"1\\\", \\\"2\", \"NULL\\r\\n\", NULL, -7]\n" ∧
      argsLine? [.text "1", .text "2", .text "NULL\r\n", .null, .int (-7)] ≠ argsLine? q.args := by
  have checked : (rendered? lookalikes box "q.json" none).any (fun q =>
      q.args.all (! ·.isFloat) && q.args.length == 4 &&
        queryText .sql q == "SELECT ?, ?, ?, ? FROM `box`;\n" ++
          "-- args: [\"1\\\", \\\"2\", \"NULL\\r\\n\", NULL, -7]\n") = true := by
    decide +kernel
  obtain ⟨q, rendered, hq⟩ := (Option.any_eq_true _ _).1 checked
  simp only [Bool.and_eq_true, List.all_eq_true, Bool.not_eq_true', beq_iff_eq] at hq
  obtain ⟨⟨exact, four⟩, printed⟩ := hq
  obtain ⟨runs, json, -, -, others⟩ := outputs_keep_arguments exact
  refine ⟨q, rendered, exact, runs lookalikes box "q.json" none rendered, json, printed,
    fun same => ?_⟩
  have collapsed := others _ (by decide) same
  rw [← collapsed] at four
  cases four

end CommandLine

end SqlSelect
