import CTokens.Command.Execute
import CTokens.Proofs.Outcomes
import CTokens.Proofs.Places

/-! # What the command leaves behind

The exit code of the command, its standard output and the files that it leaves are decided by four
of its options: the input, the output, the format and `strict`.  How diagnostics are coloured and
what is logged shows on standard error only.

An output that cannot be made stops the command.  Otherwise the output is a file, which is empty
before the input is read, and then has all that is printed, or stays empty if the input cannot be
read; no other file changes (`leaves_effect_execute`).
-/

namespace CTokens.Command

open Utf8

/-- What the command leaves behind, besides what it says on standard error. -/
structure Effect where
  code : Nat
  printed : List UInt8
  tree : FileTree

def Outcome.effect (outcome : Outcome) : Effect :=
  { code := outcome.code, printed := outcome.standardOutput.data.toList, tree := outcome.tree }

/-! ## One content -/

/-- A content that cannot be read gives nothing, and exit code 1.  Any other gives the printed form
    of all its tokens, and exit code 0 unless an unknown one is among them and `strict` is set. -/
structure Delivers (format : Format) (strict : Bool) (content : Except FileError (List UInt8))
    (written : List UInt8) (code : Nat) : Prop where
  unread : ∀ error, content = .error error → written = [] ∧ code = 1
  read : ∀ bytes, content = .ok bytes →
    written = encode (format.render (tokenize (decodeLossy bytes))) ∧
    code =
      if strict = true ∧ ∃ token ∈ tokenize (decodeLossy bytes), token.isUnknown = true then 1
      else 0

theorem Delivers.unique {format : Format} {strict : Bool}
    {content : Except FileError (List UInt8)} {written written' : List UInt8} {code code' : Nat}
    (first : Delivers format strict content written code)
    (second : Delivers format strict content written' code') :
    written = written' ∧ code = code' := by
  cases content with
  | error error =>
    obtain ⟨rfl, rfl⟩ := first.unread error rfl
    obtain ⟨rfl, rfl⟩ := second.unread error rfl
    exact ⟨rfl, rfl⟩
  | ok bytes =>
    obtain ⟨rfl, rfl⟩ := first.read bytes rfl
    obtain ⟨rfl, rfl⟩ := second.read bytes rfl
    exact ⟨rfl, rfl⟩

section

variable (options : Options) (environment : Environment) (time : String)

/-- Whatever is told of a run, what comes of it are its failure and what its sink holds. -/
theorem perform_eq (content : Except FileError (List UInt8)) :
    ∃ ran, ran = options.settings.run options.input content (Sink.empty none)
        (.new (options.colour.holds environment)) ∧
      (options.perform environment time content).output = ran.sink.held ∧
      (options.perform environment time content).code = if ran.failure.isSome then 1 else 0 := by
  refine ⟨_, rfl, ?_⟩
  rw [Options.perform]
  split
  · next unfailed => exact ⟨rfl, by rw [unfailed]; rfl⟩
  · next failed => exact ⟨rfl, by rw [failed]; rfl⟩

theorem delivers_perform (content : Except FileError (List UInt8)) :
    Delivers options.format options.strict content
      (options.perform environment time content).output.data.toList
      (options.perform environment time content).code := by
  obtain ⟨ran, equal, output, code⟩ := perform_eq options environment time content
  rw [output, code]
  cases content with
  | error error =>
    subst equal
    exact ⟨fun _ _ => ⟨rfl, rfl⟩, nofun⟩
  | ok bytes =>
    have room : (Sink.empty none).HasRoom
        (encode (options.settings.format.render (tokenize (decodeLossy bytes)))).length := nofun
    refine ⟨nofun, ?_⟩
    rintro _ ⟨⟩
    constructor
    · rw [equal, Settings.toList_held_run]
      rfl
    · have failed : ran.failure.isSome = true ↔ options.strict = true ∧
          ∃ token ∈ tokenize (decodeLossy bytes), token.isUnknown = true := by
        rw [equal, Settings.failure_run_of_hasRoom _ _ _ _ room, Option.isSome_ite,
          List.countP_pos_iff]
        rfl
      simp only [failed]

end

/-! ## All files -/

section

variable (tree : FileTree) (input : String) (format : Format) (strict : Bool) (effect : Effect)

/-- There is no output file: what is printed goes to standard output, and the files stay as they
    are. -/
structure Printed : Prop where
  delivers : Delivers format strict (tree.read input) effect.printed effect.code
  unchanged : effect.tree = tree

/-- The output file cannot be made: nothing is done. -/
structure Refused (output : String) : Prop where
  refused : ∃ error, tree.locate output = .error error
  code : effect.code = 1
  printed : effect.printed = []
  unchanged : effect.tree = tree

/-- The output file has been made, or emptied, and then the input been read. -/
structure Filed (output : String) (place : List String) (opened : FileTree)
    (written : List UInt8) : Prop where
  located : tree.locate output = .ok place
  empties : tree.Holding place [] opened
  emptied : opened.Names input place → opened.read input = .ok []  -- the input may be the output
  kept : ¬ opened.Names input place →
    ∀ bytes, opened.read input = .ok bytes ↔ tree.read input = .ok bytes
  delivers : Delivers format strict (opened.read input) written effect.code
  printed : effect.printed = []
  holds : tree.Holding place written effect.tree
  -- The path of the output leads to what has been written, and no other file has changed.
  output : effect.tree.read output = .ok written
  others : ∀ path, ¬ effect.tree.Names path place →
    ∀ bytes, effect.tree.read path = .ok bytes ↔ tree.read path = .ok bytes

def Leaves : Option String → Prop
  | none => Printed tree input format strict effect
  | some output =>
    Refused tree effect output ∨
      ∃ place opened written, Filed tree input format strict effect output place opened written

end

variable {options other : Options} {tree : FileTree}

theorem effect_eq (options : Options) (environment : Environment) (time : String)
    (tree : FileTree) :
    (options.execute environment time tree).effect =
      match options.output with
      | none =>
        let done := options.perform environment time (tree.read options.input)
        { code := done.code, printed := done.output.data.toList, tree := tree }
      | some output =>
        match tree.locate output with
        | .error _ => { code := 1, printed := [], tree := tree }
        | .ok place =>
          let opened := tree.put place []
          let done := options.perform environment time (opened.read options.input)
          { code := done.code
            printed := []
            tree := opened.put place done.output.data.toList } := by
  cases target : options.output with
  | none =>
    simp only [Options.execute, target]
    rfl
  | some output =>
    cases located : tree.locate output with
    | error error =>
      simp only [Options.execute, target, located]
      rfl
    | ok place =>
      simp only [Options.execute, target, located]
      rfl

theorem leaves_effect (options : Options) (environment : Environment) (time : String)
    (tree : FileTree) :
    Leaves tree options.input options.format options.strict
      (options.execute environment time tree).effect options.output := by
  rw [effect_eq]
  cases options.output with
  | none => exact ⟨delivers_perform options environment time _, rfl⟩
  | some output =>
    cases located : tree.locate output with
    | error error =>
      simp only [located]
      exact .inl ⟨⟨error, located⟩, rfl, rfl, rfl⟩
    | ok place =>
      simp only [located]
      obtain ⟨folder, name, rfl, found⟩ := FileTree.located_of_locate located
      -- The place is written to twice: emptied before the input is read, and filled at the end.
      have empties := FileTree.holding_put found.writable []
      have holds := fun written =>
        empties.trans (FileTree.holding_put (empties.writable found.writable) written)
      exact .inr ⟨_, _, _, {
        located := located
        empties := empties
        emptied := empties.read_of_names
        kept := empties.read_of_not_names found.writable
        delivers := delivers_perform options environment time _
        printed := rfl
        holds := holds _
        output := (holds _).read_of_names ((holds _).names_of_located found)
        others := fun _ => (holds _).read_of_not_names found.writable }⟩

/-- Only the format and `strict` decide what comes of a content. -/
theorem perform_congr (format : other.format = options.format)
    (strict : other.strict = options.strict) (environment environment' : Environment)
    (time time' : String) (content : Except FileError (List UInt8)) :
    (other.perform environment' time' content).output.data.toList =
        (options.perform environment time content).output.data.toList ∧
      (other.perform environment' time' content).code =
        (options.perform environment time content).code := by
  have delivers := delivers_perform other environment' time' content
  rw [format, strict] at delivers
  exact delivers.unique (delivers_perform options environment time content)

theorem effect_congr (input : other.input = options.input) (output : other.output = options.output)
    (format : other.format = options.format) (strict : other.strict = options.strict)
    (environment environment' : Environment) (time time' : String) :
    (other.execute environment' time' tree).effect =
      (options.execute environment time tree).effect := by
  have same := perform_congr format strict environment environment' time time'
  simp only [effect_eq, input, output, (same _).1, (same _).2]

/-- The command leaves behind what it is to leave behind, and nothing else that it is told, nor its
    environment, nor the time, makes any difference to that. -/
theorem leaves_effect_execute {arguments : List String} {options : Options}
    (parsed : Invocation.parse arguments = .run options) (environment : Environment)
    (time : String) (tree : FileTree) :
    Leaves tree options.input options.format options.strict
        (execute arguments environment time tree).effect options.output ∧
      ∀ others other, Invocation.parse others = .run other → other.input = options.input →
        other.output = options.output → other.format = options.format →
        other.strict = options.strict → ∀ environment' time',
          (execute others environment' time' tree).effect =
            (execute arguments environment time tree).effect := by
  have runs : execute arguments environment time tree = options.execute environment time tree := by
    rw [execute, parsed]
  rw [runs]
  refine ⟨leaves_effect options environment time tree, ?_⟩
  intro others other parsed' input output format strict environment' time'
  rw [execute, parsed']
  exact effect_congr input output format strict environment environment' time time'

/-- A strict run whose output is its input by another path. -/
theorem leaves_effect_execute_onto_its_input :
    Invocation.parse ["a.c", "-o", "./a.c", "--strict"] =
      .run { input := "a.c", output := some "./a.c", format := .plain, strict := true,
             colour := .auto, verbose := false } ∧
    Leaves { root := .directory [("a.c", .file [0x40])], working := [] } "a.c" .plain true
      (execute ["a.c", "-o", "./a.c", "--strict"] [] ""
        { root := .directory [("a.c", .file [0x40])], working := [] }).effect (some "./a.c") ∧
    (execute ["-vo./a.c", "--color=always", "--strict", "a.c"] [("RUST_LOG", "trace")] "00:00"
        { root := .directory [("a.c", .file [0x40])], working := [] }).effect =
      (execute ["a.c", "-o", "./a.c", "--strict"] [] ""
        { root := .directory [("a.c", .file [0x40])], working := [] }).effect := by
  have parsed : Invocation.parse ["a.c", "-o", "./a.c", "--strict"] =
      .run { input := "a.c", output := some "./a.c", format := .plain, strict := true,
             colour := .auto, verbose := false } := by decide
  have parsed' : Invocation.parse ["-vo./a.c", "--color=always", "--strict", "a.c"] =
      .run { input := "a.c", output := some "./a.c", format := .plain, strict := true,
             colour := .always, verbose := true } := by decide
  obtain ⟨leaves, same⟩ := leaves_effect_execute parsed [] ""
    { root := .directory [("a.c", .file [0x40])], working := [] }
  exact ⟨parsed, leaves, same _ _ parsed' rfl rfl rfl rfl _ _⟩

end CTokens.Command
