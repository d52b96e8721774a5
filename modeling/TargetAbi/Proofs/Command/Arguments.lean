import Mathlib.Data.List.Perm.Basic
import Mathlib.Data.List.TakeDrop
import TargetAbi.Program
import TargetAbi.Proofs.Command.Paint
import TargetAbi.Proofs.Lookup

/-!
# Arguments in any order

What the arguments after the name of a command give to it, part by part. A part is a request for
verbosity, a positional argument or an option with its value, and it is written as one argument or
two (`CommandPart.IsWritten`). Reading arguments that are written for a list of parts adds the parts
one after the other (`read_eq_foldlM`), and what the command gets of them are the positional
arguments and the options in their order and the number of the requests for verbosity
(`foldlM_addPart`).

An option is looked up by its name and a paint command has one positional argument, so all orders
and spellings of its arguments ask for the same command, wherever verbosity is asked for
(`runProgramOn_paint_arguments`).
-/

set_option autoImplicit false

namespace TargetAbi

/-! ## The form of an argument -/

/-- A text that is taken for a value: it does not start like an option. -/
def IsValue (text : String) : Prop := text.toList.head? ≠ some '-'

/-- The two ways to ask for more verbosity. -/
def IsVerbosity (argument : String) : Prop := argument = "-v" ∨ argument = "--verbose"

instance (text : String) : Decidable (IsValue text) :=
  inferInstanceAs (Decidable (text.toList.head? ≠ some '-'))

instance (argument : String) : Decidable (IsVerbosity argument) :=
  inferInstanceAs (Decidable (argument = "-v" ∨ argument = "--verbose"))

/-- A name that an option can have: there is something of it, it ends before an equals sign, and it
is not that of a flag. -/
structure IsOptionName (name : String) : Prop where
  ne_empty : name ≠ ""
  no_equals : '=' ∉ name.toList
  not_flag : ¬ (name = "verbose" ∨ name = "help")

theorem CommandName.isOptionName_of_mem {c : CommandName} {name : String}
    (h : name ∈ c.parameters.options) : IsOptionName name := by
  have hall : ∀ name ∈ c.parameters.options,
      name ≠ "" ∧ '=' ∉ name.toList ∧ ¬ (name = "verbose" ∨ name = "help") := by
    cases c <;> decide
  obtain ⟨hempty, hequals, hflag⟩ := hall name h
  exact ⟨hempty, hequals, hflag⟩

theorem CommandName.isValue_of_ofString? {name : String} {c : CommandName}
    (h : ofString? name = some c) : IsValue name := by
  unfold ofString? at h
  split at h
  case h_7 => cases h
  all_goals decide

namespace Argument

theorem ofString_of_isValue {text : String} (h : IsValue text) : ofString text = .plain text := by
  unfold ofString
  split
  case h_5 => rfl
  -- the other forms start with a hyphen
  all_goals
    rename_i heq
    exact absurd (by rw [heq]; rfl) h

/-- A name ends where the text ends or an equals sign follows. -/
theorem span_append {front back : List Char} (hfront : '=' ∉ front)
    (hback : ∀ c, back.head? = some c → c = '=') :
    (front ++ back).span (· != '=') = (front, back) := by
  have hall : ∀ x ∈ front, (x != '=') = true := by
    intro x hx
    rw [bne_iff_ne]
    rintro rfl
    exact hfront hx
  rw [List.span_eq_takeWhile_dropWhile, List.takeWhile_append_of_pos hall,
    List.dropWhile_append_of_pos hall]
  cases back with
  | nil => simp
  | cons c back =>
    obtain rfl := hback c rfl
    simp

variable {name value : String}

/-- An option with what follows its name: nothing, or an equals sign and a value. -/
theorem ofString_of_toList {s : String} {back : List Char} (h : IsOptionName name)
    (hback : ∀ c, back.head? = some c → c = '=')
    (hs : s.toList = '-' :: '-' :: (name.toList ++ back)) :
    ofString s = .long name (back.tail?.map String.ofList) := by
  have hspan := span_append h.no_equals hback
  have hfold : String.ofList name.toList = name := String.ofList_toList
  have hname : name.toList ≠ [] := by simpa using h.ne_empty
  -- a character after the two hyphens tells the option from the escape
  obtain ⟨c, cs, hcons⟩ := List.exists_cons_of_ne_nil hname
  rw [hcons] at hs hspan hfold
  unfold ofString
  rw [hs]
  simp only [List.cons_append] at hspan ⊢
  rw [hspan]
  cases back with
  | nil => rw [← hfold]; rfl
  | cons _ value => rw [← hfold]; rfl

/-- An option whose value is the next argument. -/
theorem ofString_separate (h : IsOptionName name) :
    ofString ("--" ++ name) = .long name none := by
  have hs : ("--" ++ name).toList = '-' :: '-' :: (name.toList ++ []) := by
    rw [String.toList_append, List.append_nil]
    rfl
  have hback : ∀ c, ([] : List Char).head? = some c → c = '=' := by simp
  exact ofString_of_toList h hback hs

/-- An option with its value after an equals sign. -/
theorem ofString_joined (h : IsOptionName name) (value : String) :
    ofString ("--" ++ name ++ "=" ++ value) = .long name (some value) := by
  have hs : ("--" ++ name ++ "=" ++ value).toList =
      '-' :: '-' :: (name.toList ++ '=' :: value.toList) := by
    simp [String.toList_append]
  have hback : ∀ c, ('=' :: value.toList).head? = some c → c = '=' := by simp
  have hlong := ofString_of_toList h hback hs
  rwa [List.tail?_cons, Option.map_some, String.ofList_toList] at hlong

end Argument

/-! ## Parts of a command line -/

/-- What the arguments after the name of a command give, by one or two of them. -/
inductive CommandPart where
  /-- One more step of verbosity. -/
  | verbosity
  | positional (text : String)
  | option (name value : String)
  deriving DecidableEq, Repr

namespace CommandPart

/-- The ways to write a part. A value that could be taken for an option has to be attached to the
name of its own option. -/
inductive IsWritten : CommandPart → List String → Prop
  | verbosity {argument : String} : IsVerbosity argument → IsWritten verbosity [argument]
  | positional {text : String} : IsValue text → IsWritten (positional text) [text]
  | separate {name value : String} : IsValue value →
      IsWritten (option name value) ["--" ++ name, value]
  | joined (name value : String) :
      IsWritten (option name value) ["--" ++ name ++ "=" ++ value]

/-- Arguments that are written for parts, one part after the other. -/
inductive AreWritten : List CommandPart → List String → Prop
  | nil : AreWritten [] []
  | cons {part : CommandPart} {parts : List CommandPart} {words arguments : List String} :
      part.IsWritten words → AreWritten parts arguments →
        AreWritten (part :: parts) (words ++ arguments)

/-- The text of a positional argument. -/
def text? : CommandPart → Option String
  | positional text => some text
  | _ => none

/-- The name and the value of an option. -/
def option? : CommandPart → Option (String × String)
  | option name value => some (name, value)
  | _ => none

/-- A part that is no request for verbosity. -/
def isGiven (part : CommandPart) : Bool := part != verbosity

/-- What requests for verbosity do not give is given by the other parts. -/
theorem filterMap_filter_isGiven {α : Type} {f : CommandPart → Option α} (hf : f verbosity = none)
    (parts : List CommandPart) : (parts.filter isGiven).filterMap f = parts.filterMap f := by
  rw [List.filterMap_filter]
  congr 1
  funext part
  cases part with
  | verbosity => exact hf.symm
  | positional text => rfl
  | option name value => rfl

end CommandPart

namespace Given

open Argument

variable {p : Parameters} {g : Given} {part : CommandPart} {parts : List CommandPart}
  {words arguments : List String} {argument name value : String}

/-- With one more part. -/
def addPart (p : Parameters) (g : Given) : CommandPart → Except Stop Given
  | .verbosity => .ok (g.addVerbosity 1)
  | .positional text => g.addPositional p text
  | .option name value => g.addOption name value

/-- With all parts, each one behind those of its kind. -/
def append (g : Given) (parts : List CommandPart) : Given where
  positional := g.positional ++ parts.filterMap CommandPart.text?
  options := g.options ++ parts.filterMap CommandPart.option?
  verbosity := g.verbosity + parts.count .verbosity

/-! ## Reading part by part -/

theorem ne_escape_of_ofString (h : ofString argument ≠ .escape) : argument ≠ "--" := by
  rintro rfl
  exact h rfl

/-- An argument that is complete in itself, whether another one follows it or not. -/
theorem read_complete {r : Except Stop Given} (hescape : ofString argument ≠ .escape)
    (hpending : pendingOption? p argument = none) (hadd : g.addComplete p argument = r)
    (rest : List String) :
    g.read p ([argument] ++ rest) = r.bind fun g => g.read p rest := by
  rw [List.singleton_append]
  cases rest with
  | nil =>
    rw [read, hadd]
    cases r <;> rfl
  | cons next rest =>
    rw [read, if_neg (ne_escape_of_ofString hescape), hpending, hadd]
    cases r <;> rfl

/-- An option whose value is the next argument. -/
theorem read_pending (hescape : ofString argument ≠ .escape)
    (hpending : pendingOption? p argument = some name) (hvalue : IsValue value)
    (rest : List String) :
    g.read p ([argument, value] ++ rest) =
      (g.addOption name value).bind fun g => g.read p rest := by
  show g.read p (argument :: value :: rest) = _
  rw [read, if_neg (ne_escape_of_ofString hescape), hpending]
  simp only [ofString_of_isValue hvalue]
  cases g.addOption name value <;> rfl

/-- One step of reading: the words of a part add this part. -/
theorem read_append_of_isWritten (hp : ∀ name ∈ p.options, IsOptionName name)
    (hpart : ∀ name value, part = .option name value → name ∈ p.options)
    (h : part.IsWritten words) (rest : List String) :
    g.read p (words ++ rest) = (g.addPart p part).bind fun g => g.read p rest := by
  cases h with
  | @verbosity argument h =>
    have hverbose : "verbose" ∉ p.options := fun hmem => (hp _ hmem).not_flag (Or.inl rfl)
    rcases h with rfl | rfl
    · exact read_complete (by decide) rfl rfl rest
    · have hpending : pendingOption? p "--verbose" = none := if_neg hverbose
      exact read_complete (by decide) hpending rfl rest
  | @positional text h =>
    have hform := ofString_of_isValue h
    have hpending : pendingOption? p text = none := by rw [pendingOption?, hform]
    have hadd : g.addComplete p text = g.addPositional p text := by rw [addComplete, hform]
    exact read_complete (by simp [hform]) hpending hadd rest
  | @separate name value h =>
    have hmem := hpart name value rfl
    have hform := ofString_separate (hp name hmem)
    have hpending : pendingOption? p ("--" ++ name) = some name := by
      rw [pendingOption?, hform]
      exact if_pos hmem
    exact read_pending (by simp [hform]) hpending h rest
  | joined name value =>
    have hmem := hpart name value rfl
    have hname := hp name hmem
    have hform := ofString_joined hname value
    have hpending : pendingOption? p ("--" ++ name ++ "=" ++ value) = none := by
      rw [pendingOption?, hform]
    have hadd : g.addComplete p ("--" ++ name ++ "=" ++ value) = g.addOption name value := by
      rw [addComplete, hform]
      simp only [if_neg hname.not_flag, if_pos hmem]
    exact read_complete (by simp [hform]) hpending hadd rest

/-- A run of reading: the parts are added one after the other. -/
theorem read_eq_foldlM (hp : ∀ name ∈ p.options, IsOptionName name)
    (hparts : ∀ name value, .option name value ∈ parts → name ∈ p.options)
    (h : CommandPart.AreWritten parts arguments) :
    g.read p arguments = parts.foldlM (addPart p) g := by
  -- by induction on the parts, for every state in which their arguments may be read
  induction h generalizing g with
  | nil => rfl
  | @cons part parts words arguments hpart _ ih =>
    rw [read_append_of_isWritten hp ?_ hpart, List.foldlM_cons]
    · show _ = (g.addPart p part).bind fun g => parts.foldlM (addPart p) g
      congr 1
      funext g
      exact ih fun name value hmem => hparts name value (List.mem_cons_of_mem part hmem)
    · rintro name value rfl
      exact hparts name value List.mem_cons_self

/-! ## What the parts give -/

theorem append_nil (g : Given) : g.append [] = g := by
  simp [append]

theorem append_cons (g : Given) (part : CommandPart) (parts : List CommandPart) :
    g.append (part :: parts) = (g.append [part]).append parts := by
  rw [← List.singleton_append]
  simp only [append, List.filterMap_append, List.append_assoc, List.count_append, Nat.add_assoc]

theorem addPart_eq_ok (hplaces : (g.append [part]).positional.length ≤ p.positional)
    (hkeys : ((g.append [part]).options.map Prod.fst).Nodup) :
    g.addPart p part = .ok (g.append [part]) := by
  cases part with
  | verbosity => simp [addPart, append, addVerbosity, CommandPart.text?, CommandPart.option?]
  | positional text =>
    have hlt : g.positional.length < p.positional := by
      simpa [append, CommandPart.text?, Nat.succ_le_iff] using hplaces
    simp [addPart, addPositional, append, hlt, CommandPart.text?, CommandPart.option?]
  | option name value =>
    have hkeys : (g.options.map Prod.fst ++ [name]).Nodup := by
      simpa [append, CommandPart.option?] using hkeys
    have hnone : g.options.lookup name = none := by
      rw [lookup_eq_none_iff_not_mem]
      intro hmem
      exact (List.nodup_append.1 hkeys).2.2 name hmem name List.mem_cons_self rfl
    simp [addPart, addOption, append, hnone, CommandPart.text?, CommandPart.option?]

/-- If there are places for all positional arguments and no option is given twice, then the command
is given all of them. -/
theorem foldlM_addPart (hplaces : (g.append parts).positional.length ≤ p.positional)
    (hkeys : ((g.append parts).options.map Prod.fst).Nodup) :
    parts.foldlM (addPart p) g = .ok (g.append parts) := by
  induction parts generalizing g with
  | nil =>
    rw [append_nil]
    rfl
  | cons part parts ih =>
    rw [append_cons] at hplaces hkeys ⊢
    -- what the first part alone gives is the front of what all of them give
    have hfirst : (g.append [part]).positional.length ≤ p.positional :=
      Nat.le_trans (by simp [append]) hplaces
    have hkey : ((g.append [part]).options.map Prod.fst).Nodup := by
      rw [append, List.map_append] at hkeys
      exact hkeys.of_append_left
    rw [List.foldlM_cons, addPart_eq_ok hfirst hkey]
    exact ih hplaces hkeys

end Given

/-! ## Requests -/

namespace Request

/-- Requests for verbosity before the name of the command are counted. -/
theorem read_append_of_isVerbosity {flags : List String} (hflags : ∀ flag ∈ flags, IsVerbosity flag)
    (before : Nat) (rest : List String) :
    read before (flags ++ rest) = read (before + flags.length) rest := by
  induction flags generalizing before with
  | nil => rfl
  | cons flag flags ih =>
    have hrest := ih (fun flag hflag => hflags flag (List.mem_cons_of_mem _ hflag)) (before + 1)
    rw [List.length_cons, Nat.add_comm flags.length, ← Nat.add_assoc, ← hrest]
    rcases hflags flag List.mem_cons_self with rfl | rfl
    · rfl
    · rfl

/-- The request that is made by the name of a command and arguments for parts of it. -/
theorem ofArguments_of_areWritten {flags : List String} {name : String} {c : CommandName}
    {parts : List CommandPart} {arguments : List String} (hflags : ∀ flag ∈ flags, IsVerbosity flag)
    (hname : CommandName.ofString? name = some c)
    (hoptions : ∀ name value, .option name value ∈ parts → name ∈ c.parameters.options)
    (hplaces : (parts.filterMap CommandPart.text?).length ≤ c.parameters.positional)
    (hkeys : ((parts.filterMap CommandPart.option?).map Prod.fst).Nodup)
    (hwritten : CommandPart.AreWritten parts arguments) :
    ofArguments (flags ++ name :: arguments) =
      (c.complete (Given.start.append parts)).map
        (.run flags.length (parts.count .verbosity)) := by
  have hread : Given.start.read c.parameters arguments = .ok (Given.start.append parts) := by
    rw [Given.read_eq_foldlM (fun _ => CommandName.isOptionName_of_mem) hoptions hwritten]
    exact Given.foldlM_addPart hplaces hkeys
  have hplain := Argument.ofString_of_isValue (CommandName.isValue_of_ofString? hname)
  have hcount : (Given.start.append parts).verbosity = parts.count .verbosity := Nat.zero_add _
  rw [ofArguments, read_append_of_isVerbosity hflags, Nat.zero_add, read, hplain]
  simp only [ofCommand, hname, hread, hcount]

end Request

/-! ## The result of a paint command -/

/-- Requests for verbosity on one side of the name of a command all count. -/
theorem Libraries.verbosity_eq_add (lib : Libraries) {before after : Nat}
    (h : before = 0 ∨ after = 0) : lib.verbosity before after = before + after := by
  rcases h with rfl | rfl
  · rw [lib.verbosity_zero_left, Nat.zero_add]
  · rw [lib.verbosity_zero_right, Nat.add_zero]

/-- A record of the finest level is written from the second request for verbosity on. -/
theorem Libraries.logText_trace (lib : Libraries) (verbosity : Nat) {r : LogRecord}
    (hr : r.level = .trace) :
    lib.logText (.ofVerbosity verbosity) [r] = if 2 ≤ verbosity then lib.logLine r else "" := by
  have henables : (LogLevel.ofVerbosity verbosity).enables r.level = decide (2 ≤ verbosity) := by
    rw [hr]
    match verbosity with
    | 0 | 1 => rfl
    | n + 2 => simp [LogLevel.ofVerbosity, LogLevel.enables]
  by_cases hverbosity : 2 ≤ verbosity
  · simp [logText, henables, hverbosity]
  · simp [logText, henables, hverbosity]

namespace Command

variable {value source target : String}

/-- A paint command that succeeds leaves its two lines with status 0, and logs what it has done if
this is asked for. -/
theorem result_paint_of_ok (lib : Libraries) {order : ByteOrder} {files : FileSystem}
    (verbosity : Nat) {s t : BasicType} {c d : Constant} (hs : s.IsNamed source)
    (ht : t.IsNamed target) (hc : Constant.read value s = .ok c)
    (hd : c.reinterpret order t = .ok d) :
    (paint value source target).result lib order files verbosity =
      ⟨0, Text.unlines (paintedLines s t c d),
        if 2 ≤ verbosity then lib.logLine (paintedRecord c d t) else ""⟩ := by
  have haction : (paint value source target).action order files = _ :=
    printPainted_of_ok hs ht hc hd
  have hlog := lib.logText_trace verbosity (r := paintedRecord c d t) rfl
  simp only [result, haction, hlog]

/-- A paint command that fails leaves nothing with status 1 but the message of its error. -/
theorem result_paint_of_error (lib : Libraries) {order : ByteOrder} {files : FileSystem}
    (verbosity : Nat) {e : CommandError}
    (h : ((paint value source target).runOn order files).error = some e) :
    (paint value source target).result lib order files verbosity =
      ⟨1, "", errorLine e.message⟩ := by
  have haction : (paint value source target).action order files = .fail e :=
    printPainted_of_error h
  have hlog : lib.logText (.ofVerbosity verbosity) [] = "" := rfl
  simp only [result, haction, Printing.fail, Printing.ofExcept, hlog, String.empty_append]

end Command

section Paint

variable {parts : List CommandPart} {value source target : String}

/-- The parts of a paint command, which may stand in any order and between requests for
verbosity. -/
def CommandPart.ArePaint (parts : List CommandPart) (value source target : String) : Prop :=
  (parts.filter isGiven).Perm [.positional value, .option "from" source, .option "to" target]

namespace CommandPart.ArePaint

theorem filterMap_text? (h : ArePaint parts value source target) :
    parts.filterMap text? = [value] := by
  have hperm := List.Perm.filterMap text? h
  rw [filterMap_filter_isGiven rfl] at hperm
  exact List.perm_singleton.1 hperm

theorem length_le (h : ArePaint parts value source target) :
    (parts.filterMap text?).length ≤ CommandName.paint.parameters.positional := by
  rw [h.filterMap_text?]
  exact Nat.le_refl 1

theorem filterMap_option? (h : ArePaint parts value source target) :
    (parts.filterMap option?).Perm [("from", source), ("to", target)] := by
  have hperm := List.Perm.filterMap option? h
  rwa [filterMap_filter_isGiven rfl] at hperm

theorem nodup_keys (h : ArePaint parts value source target) :
    ((parts.filterMap option?).map Prod.fst).Nodup := by
  have hkeys : (([("from", source), ("to", target)] : List (String × String)).map Prod.fst).Nodup :=
    by simp
  exact (h.filterMap_option?.map Prod.fst).nodup_iff.2 hkeys

theorem mem_options (h : ArePaint parts value source target) {name text : String}
    (hmem : .option name text ∈ parts) : name ∈ CommandName.paint.parameters.options := by
  have hoption : (name, text) ∈ parts.filterMap option? := List.mem_filterMap.2 ⟨_, hmem, rfl⟩
  have hcases := h.filterMap_option?.mem_iff.1 hoption
  simp only [List.mem_cons, List.not_mem_nil, or_false, Prod.mk.injEq] at hcases
  rcases hcases with ⟨rfl, -⟩ | ⟨rfl, -⟩
  · decide
  · decide

/-- The command finds its value and both options, whatever their order. -/
theorem complete (h : ArePaint parts value source target) :
    CommandName.paint.complete (Given.start.append parts) = .ok (.paint value source target) := by
  -- the two names differ, so the order of the options makes no difference to a look-up
  have hperm : ([("from", source), ("to", target)] ++ []).Perm (parts.filterMap option?) :=
    h.filterMap_option?.symm
  have hlookup (name : String) :
      (parts.filterMap option?).lookup name = [("from", source), ("to", target)].lookup name :=
    lookup_eq_of_perm hperm h.nodup_keys List.not_mem_nil
  have hvalue : (Given.start.append parts).argument 0 "<VALUE>" = .ok value := by
    simp [Given.argument, Given.append, Given.start, h.filterMap_text?]
  have hsource : (Given.start.append parts).required "from" = .ok source := by
    simp only [Given.required, Given.append, Given.start, List.nil_append, hlookup]
    rfl
  have htarget : (Given.start.append parts).required "to" = .ok target := by
    simp only [Given.required, Given.append, Given.start, List.nil_append, hlookup]
    rfl
  rw [CommandName.complete, hvalue, hsource, htarget]
  rfl

end CommandPart.ArePaint

end Paint

/-- All command lines for a paint command do the same. The value and the two options may be given in
any order, each option with its value attached or behind it, and verbosity may be asked for before
the command and between its arguments. The program then does what the command does with these three
texts: it succeeds with what the command prints, or fails with the message of its error. The error
stream of a run that succeeds is empty, or has the one record of what was reinterpreted if two
requests for verbosity count; requests on one side of the name of the command all count. -/
theorem runProgramOn_paint_arguments (lib : Libraries) (order : ByteOrder) (files : FileSystem)
    {flags arguments : List String} {parts : List CommandPart} {value source target : String}
    (hflags : ∀ flag ∈ flags, IsVerbosity flag)
    (hparts : CommandPart.ArePaint parts value source target)
    (hwritten : CommandPart.AreWritten parts arguments) :
    let outcome := (Command.paint value source target).runOn order files
    let result := runProgramOn lib order files (flags ++ "paint" :: arguments)
    let asked := parts.count .verbosity
    let verbosity := lib.verbosity flags.length asked
    Request.ofArguments (flags ++ "paint" :: arguments) =
        .ok (.run flags.length asked (.paint value source target)) ∧
      (flags = [] ∨ asked = 0 → verbosity = flags.length + asked) ∧
      (outcome.error = none → ∃ s t : BasicType, s.IsNamed source ∧ t.IsNamed target ∧
        ∃ c d, Constant.read value s = .ok c ∧ c.reinterpret order t = .ok d ∧
          result = ⟨0, outcome.stdout,
            if 2 ≤ verbosity then lib.logLine (Command.paintedRecord c d t) else ""⟩) ∧
      ∀ e, outcome.error = some e → outcome.stdout = "" ∧
        result = ⟨1, outcome.stdout, "error: " ++ String.intercalate ": " e.chain ++ "\n"⟩ := by
  intro outcome result asked verbosity
  have hrequest : Request.ofArguments (flags ++ "paint" :: arguments) =
      .ok (.run flags.length asked (.paint value source target)) := by
    rw [Request.ofArguments_of_areWritten (c := .paint) hflags rfl (fun _ _ => hparts.mem_options)
      hparts.length_le hparts.nodup_keys hwritten, hparts.complete]
    rfl
  have hresult : result = (Command.paint value source target).result lib order files verbosity := by
    show runProgramOn lib order files (flags ++ "paint" :: arguments) = _
    rw [runProgramOn, hrequest]
    rfl
  refine ⟨hrequest, ?_, ?_, ?_⟩
  · intro hside
    exact lib.verbosity_eq_add (hside.imp_left List.length_eq_zero_iff.2)
  · intro hnone
    obtain ⟨s, t, hs, ht, c, d, hc, hd⟩ :=
      (Command.error_runOn_paint_eq_none_iff order files value source target).1 hnone
    have hstdout : outcome.stdout = Text.unlines (paintedLines s t c d) := by
      show ((Command.paint value source target).runOn order files).stdout = _
      rw [Command.runOn_paint, Command.printPainted_of_ok hs ht hc hd]
      rfl
    refine ⟨s, t, hs, ht, c, d, hc, hd, ?_⟩
    rw [hresult, hstdout, Command.result_paint_of_ok lib verbosity hs ht hc hd]
  · intro e he
    have hstdout : outcome.stdout = "" :=
      Command.stdout_runOn_paint_of_error order files value source target (by
        rw [he]
        exact Option.some_ne_none e)
    refine ⟨hstdout, ?_⟩
    rw [hresult, hstdout, Command.result_paint_of_error lib verbosity he]
    rfl

/-- The target type is given first and the source type last, with two requests for verbosity in
between, which make a record in the log. -/
theorem runProgramOn_paint_arguments_reversed :
    let parts :=
      [.option "to" "u32", .verbosity, .positional "0xFFFFFFFF", .verbosity, .option "from" "i32"]
    let arguments := ["--to=u32", "--verbose", "0xFFFFFFFF", "-v", "--from", "i32"]
    (∀ flag ∈ ["-v"], IsVerbosity flag) ∧ CommandPart.ArePaint parts "0xFFFFFFFF" "i32" "u32" ∧
      CommandPart.AreWritten parts arguments ∧
      runProgramOn .plain .leastFirst (fun _ => .missing) (["-v"] ++ "paint" :: arguments) =
        ⟨0, "-1 (int32) -> 4294967295 (uns32)\nbits: 0xFFFFFFFF\n",
          "[TRACE] abiscope_ctfe::paint: painted -1 (int32) as 4294967295 (uns32)\n"⟩ := by
  intro parts arguments
  have hflags : ∀ flag ∈ ["-v"], IsVerbosity flag := by decide
  have hparts : CommandPart.ArePaint parts "0xFFFFFFFF" "i32" "u32" := by
    show List.Perm _ _
    decide
  have hvalue : IsValue "0xFFFFFFFF" := by decide
  have hsource : IsValue "i32" := by decide
  have hwritten : CommandPart.AreWritten parts arguments :=
    .cons (.joined "to" "u32") (.cons (.verbosity (Or.inr rfl)) (.cons (.positional hvalue)
      (.cons (.verbosity (Or.inl rfl)) (.cons (.separate hsource) .nil))))
  obtain ⟨-, -, hsuccess, -⟩ :=
    runProgramOn_paint_arguments .plain .leastFirst (fun _ => .missing) hflags hparts hwritten
  obtain ⟨s, t, hs, ht, c, d, hc, hd, hresult⟩ := hsuccess rfl
  -- the names and the literal leave one choice for the types and the constants
  obtain rfl : s = .int32 := hs.unique (by decide : BasicType.IsNamed .int32 "i32")
  obtain rfl : t = .uns32 := ht.unique (by decide : BasicType.IsNamed .uns32 "u32")
  obtain rfl : .int32 (-1) = c := Except.ok.inj hc
  obtain rfl : .uns32 0xFFFFFFFF = d := Except.ok.inj hd
  exact ⟨hflags, hparts, hwritten, hresult⟩

end TargetAbi
