import Mathlib

/-! The one-line help of an RPC, as `rpc/util.cpp` prints it. `RPCHelpMan::ToString` writes the
RPC's name, then each argument after a space, the optional ones in one bracket group, each argument
through `RPCArg::ToString`; the members of an object print through `RPCArg::ToStringObj`. Two
`assert`s guard the printer, and either aborts the process: a required argument after an optional
one, and an object among an object's members.

The loop of `RPCHelpMan::ToString` carries a flag, `is_optional`, through the arguments. It prints
exactly when the arguments are the required ones followed by the optional ones and each of them
prints, and the line is then `helpLine` of their texts. An argument with no object among an
object's members prints, and the brackets of what it prints nest.
-/

namespace Rpc

/-- `RPCArg::Type`. -/
inductive RPCArgType
  | obj
  | arr
  | str
  | num
  | bool
  | objUserKeys
  | amount
  | strHex
  deriving DecidableEq, Repr

/-- `Type::OBJ` and `Type::OBJ_USER_KEYS`, the types `ToStringObj` does not print. -/
def RPCArgType.isObject : RPCArgType → Bool
  | .obj | .objUserKeys => true
  | _ => false

/-- `RPCArg`, with the fields the printers read: `m_name`, `m_type`, `m_optional`, `m_inner` and
`m_oneline_description`. -/
structure RPCArg where
  name : String
  type : RPCArgType
  optional : Bool
  inner : List RPCArg
  onelineDescription : String

mutual

/-- `RPCArg::ToStringObj`: an object's member as `"name":` and its type; `none` is the
`assert(false)` on a member that is itself an object. -/
def RPCArg.toStringObj : RPCArg → Option String
  | ⟨name, type, _, inner, _⟩ =>
      let res := "\"" ++ name ++ "\":"
      match type with
      | .str => some (res ++ "\"str\"")
      | .strHex => some (res ++ "\"hex\"")
      | .num => some (res ++ "n")
      | .amount => some (res ++ "amount")
      | .bool => some (res ++ "bool")
      | .arr => (RPCArg.arrayItems (res ++ "[") inner).map (· ++ "...]")
      | .obj | .objUserKeys => none

/-- `RPCArg::ToString`: the one-line description when there is one, else the argument's shape. -/
def RPCArg.toString : RPCArg → Option String
  | ⟨name, type, _, inner, onelineDescription⟩ =>
      if !onelineDescription.isEmpty then some onelineDescription
      else
        match type with
        | .strHex | .str => some ("\"" ++ name ++ "\"")
        | .num | .amount | .bool => some name
        | .obj => (RPCArg.objectMembers "" inner).map fun res => "\x7b" ++ res ++ "\x7d"
        | .objUserKeys => (RPCArg.objectMembers "" inner).map fun res => "\x7b" ++ res ++ ",...\x7d"
        | .arr => (RPCArg.arrayItems "" inner).map fun res => "[" ++ res ++ "...]"

/-- The loop `for (const auto& i : m_inner) res += i.ToString() + ",";` of both printers. -/
def RPCArg.arrayItems (res : String) : List RPCArg → Option String
  | [] => some res
  | i :: rest => i.toString.bind fun s => RPCArg.arrayItems (res ++ s ++ ",") rest

/-- The loop of `ToString` over an object's members: each one's `ToStringObj`, with a comma after
each but the last. -/
def RPCArg.objectMembers (res : String) : List RPCArg → Option String
  | [] => some res
  | [i] => i.toStringObj.map (res ++ ·)
  | i :: rest@(_ :: _) => i.toStringObj.bind fun s => RPCArg.objectMembers (res ++ s ++ ",") rest

end

/-- `RPCHelpMan`: `m_name`, `m_description` and `m_args`. -/
structure RPCHelpMan where
  name : String
  description : String
  args : List RPCArg

/-- The loop of `RPCHelpMan::ToString` over `m_args`, carrying `ret` and `is_optional`: a space
before each argument and "( " before the first optional one. `none` is `assert(!is_optional)` on a
required argument after an optional one, or an argument whose printing fails its assert. -/
def RPCHelpMan.argsLoop (ret : String) (isOptional : Bool) : List RPCArg → Option (String × Bool)
  | [] => some (ret, isOptional)
  | arg :: rest =>
      let ret := ret ++ " "
      if arg.optional then
        let ret := if !isOptional then ret ++ "( " else ret
        arg.toString.bind fun s => argsLoop (ret ++ s) true rest
      else if isOptional then none
      else arg.toString.bind fun s => argsLoop (ret ++ s) false rest

/-- What `RPCHelpMan::ToString` appends after its loop: " )" when the group of optional arguments
was opened. -/
def RPCHelpMan.closeGroup : String × Bool → String
  | (ret, isOptional) => if isOptional then ret ++ " )" else ret

/-- `RPCHelpMan::ToString`: the line of the loop, then a newline and `m_description`. -/
def RPCHelpMan.toString (help : RPCHelpMan) : Option String :=
  (RPCHelpMan.argsLoop help.name false help.args).map fun line =>
    RPCHelpMan.closeGroup line ++ "\n" ++ help.description

-----------------------------------------------------------------------------------------
-- The help line
-----------------------------------------------------------------------------------------

/-- Each argument's `ToString`, in order; `none` when one of them fails its assert. -/
def printEach : List RPCArg → Option (List String)
  | [] => some []
  | arg :: rest => arg.toString.bind fun text => (printEach rest).map (text :: ·)

/-- Each text after a space. -/
def spaced : List String → String
  | [] => ""
  | text :: rest => " " ++ text ++ spaced rest

/-- The optional arguments' texts in one group "( … )" after a space, none when there is none. -/
def optionalGroup : List String → String
  | [] => ""
  | first :: rest => " ( " ++ first ++ spaced rest ++ " )"

/-- The help line as it should read: the name, each required argument after a space, and the
optional ones in one group. -/
def helpLine (name : String) (required optional : List String) : String :=
  name ++ spaced required ++ optionalGroup optional

@[simp] theorem printEach_nil : printEach [] = some [] := rfl

@[simp] theorem printEach_cons (arg : RPCArg) (rest : List RPCArg) :
    printEach (arg :: rest) = arg.toString.bind fun text => (printEach rest).map (text :: ·) := rfl

@[simp] theorem spaced_nil : spaced [] = "" := rfl

@[simp] theorem spaced_cons (text : String) (rest : List String) :
    spaced (text :: rest) = " " ++ text ++ spaced rest := rfl

section Loop

variable {ret : String}

/-- After the group is opened, the loop prints each optional argument after a space. -/
theorem RPCHelpMan.argsLoop_optional {args : List RPCArg} (optional : ∀ arg ∈ args, arg.optional = true) :
    RPCHelpMan.argsLoop ret true args
      = (printEach args).map fun texts => (ret ++ spaced texts, true) := by
  induction args generalizing ret with
  | nil => simp [argsLoop]
  | cons arg rest ih =>
      have first : arg.optional = true := optional arg (List.mem_cons_self _ _)
      rw [argsLoop, printEach_cons]
      simp only [first, if_true, Bool.not_true, Bool.false_eq_true, if_false]
      cases arg.toString with
      | none => rfl
      | some text =>
          simp [ih fun a mem => optional a (List.mem_cons_of_mem _ mem), Function.comp_def,
            String.append_assoc]

/-- After the group is opened, a required argument trips `assert(!is_optional)`. -/
theorem RPCHelpMan.argsLoop_required_late {args : List RPCArg}
    (late : ∃ arg ∈ args, arg.optional = false) : RPCHelpMan.argsLoop ret true args = none := by
  induction args generalizing ret with
  | nil => simp at late
  | cons arg rest ih =>
      rw [argsLoop]
      cases first : arg.optional
      · rfl
      · have later : ∃ a ∈ rest, a.optional = false := by
          obtain ⟨a, mem, required⟩ := late
          rcases List.mem_cons.mp mem with rfl | mem
          · simp [first] at required
          · exact ⟨a, mem, required⟩
        simp only [if_true, Bool.not_true, Bool.false_eq_true, if_false]
        cases arg.toString with
        | none => rfl
        | some text => exact ih later

/-- An optional argument followed, later, by a required one trips `assert(!is_optional)`, whether
the group was opened before or not. -/
theorem RPCHelpMan.argsLoop_misordered {isOptional : Bool} {first : RPCArg} {rest : List RPCArg}
    (opened : first.optional = true) (late : ∃ arg ∈ rest, arg.optional = false) :
    RPCHelpMan.argsLoop ret isOptional (first :: rest) = none := by
  rw [argsLoop]
  simp only [opened, if_true]
  cases first.toString <;> simp [argsLoop_required_late late]

/-- Before the group, the loop prints each required argument after a space. -/
theorem RPCHelpMan.argsLoop_required {required : List RPCArg} (rest : List RPCArg)
    (allRequired : ∀ arg ∈ required, arg.optional = false) :
    RPCHelpMan.argsLoop ret false (required ++ rest)
      = (printEach required).bind fun texts =>
          RPCHelpMan.argsLoop (ret ++ spaced texts) false rest := by
  induction required generalizing ret with
  | nil => simp
  | cons arg more ih =>
      have first : arg.optional = false := allRequired arg (List.mem_cons_self _ _)
      rw [List.cons_append, argsLoop, printEach_cons]
      simp only [first, Bool.false_eq_true, if_false]
      cases arg.toString with
      | none => rfl
      | some text =>
          rw [Option.some_bind, ih fun a mem => allRequired a (List.mem_cons_of_mem _ mem)]
          cases printEach more <;> simp [String.append_assoc]

/-- From the first optional argument on, the loop and the closing " )" print the group. -/
theorem RPCHelpMan.argsLoop_group {optional : List RPCArg}
    (allOptional : ∀ arg ∈ optional, arg.optional = true) :
    (RPCHelpMan.argsLoop ret false optional).map RPCHelpMan.closeGroup
      = (printEach optional).map fun texts => ret ++ optionalGroup texts := by
  cases optional with
  | nil => simp [argsLoop, closeGroup, optionalGroup]
  | cons arg rest =>
      have first : arg.optional = true := allOptional arg (List.mem_cons_self _ _)
      rw [argsLoop, printEach_cons]
      simp only [first, if_true, Bool.not_false]
      cases arg.toString with
      | none => rfl
      | some text =>
          simp [argsLoop_optional fun a mem => allOptional a (List.mem_cons_of_mem _ mem),
            closeGroup, optionalGroup, Function.comp_def, String.append_assoc]

end Loop

/-- The help of arguments split into required ones and then optional ones is the help line of
their texts, when each prints. -/
theorem RPCHelpMan.toString_of_split (help : RPCHelpMan) {required optional : List RPCArg}
    (split : help.args = required ++ optional) (allRequired : ∀ arg ∈ required, arg.optional = false)
    (allOptional : ∀ arg ∈ optional, arg.optional = true) :
    help.toString = (printEach required).bind fun requiredTexts =>
      (printEach optional).map fun optionalTexts =>
        helpLine help.name requiredTexts optionalTexts ++ "\n" ++ help.description := by
  rw [toString, split, argsLoop_required _ allRequired]
  cases printEach required with
  | none => rfl
  | some requiredTexts =>
      have group := congrArg (Option.map (· ++ "\n" ++ help.description))
        (@argsLoop_group (help.name ++ spaced requiredTexts) _ allOptional)
      simpa only [Option.some_bind, Option.map_map, Function.comp_def, helpLine] using group

/-- `RPCHelpMan::ToString` prints exactly when the arguments are the required ones followed by the
optional ones and each argument prints; the text is then the help line of their texts. -/
theorem RPCHelpMan.toString_eq_some_iff (help : RPCHelpMan) (text : String) :
    help.toString = some text ↔
      ∃ required optional, help.args = required ++ optional
        ∧ (∀ arg ∈ required, arg.optional = false) ∧ (∀ arg ∈ optional, arg.optional = true)
        ∧ ∃ requiredTexts optionalTexts, printEach required = some requiredTexts
          ∧ printEach optional = some optionalTexts
          ∧ text = helpLine help.name requiredTexts optionalTexts ++ "\n" ++ help.description := by
  constructor
  · intro printed
    have split := (List.takeWhile_append_dropWhile (fun arg : RPCArg => !arg.optional) help.args).symm
    have allRequired : ∀ arg ∈ help.args.takeWhile (fun arg => !arg.optional),
        arg.optional = false := fun arg mem => by simpa using List.mem_takeWhile_imp mem
    have allOptional : ∀ arg ∈ help.args.dropWhile (fun arg => !arg.optional),
        arg.optional = true := by
      intro arg mem
      by_contra required
      apply absurd printed
      rw [toString, split, argsLoop_required _ allRequired]
      obtain ⟨first, rest, start⟩ := List.exists_cons_of_ne_nil (List.ne_nil_of_mem mem)
      have opened : first.optional = true := by
        simpa [start] using List.head?_dropWhile_not (fun arg : RPCArg => !arg.optional) help.args
      have late : ∃ a ∈ rest, a.optional = false := by
        rw [start] at mem
        rcases List.mem_cons.mp mem with rfl | mem
        · exact absurd opened required
        · exact ⟨arg, mem, by simpa using required⟩
      rw [start]
      cases printEach (help.args.takeWhile fun arg => !arg.optional) <;>
        simp [argsLoop_misordered opened late]
    refine ⟨_, _, split, allRequired, allOptional, ?_⟩
    rw [toString_of_split help split allRequired allOptional] at printed
    obtain ⟨requiredTexts, requiredPrinted, printed⟩ := Option.bind_eq_some.mp printed
    obtain ⟨optionalTexts, optionalPrinted, line⟩ := Option.map_eq_some'.mp printed
    exact ⟨requiredTexts, optionalTexts, requiredPrinted, optionalPrinted, line.symm⟩
  · rintro ⟨required, optional, split, allRequired, allOptional, requiredTexts, optionalTexts,
      requiredPrinted, optionalPrinted, rfl⟩
    simp [toString_of_split help split allRequired allOptional, requiredPrinted, optionalPrinted]

-----------------------------------------------------------------------------------------
-- Brackets
--
-- The printers never trip their object assert on arguments that nest no object in an object, and
-- what they print has its brackets nested, given names and one-line descriptions free of brackets.
-----------------------------------------------------------------------------------------

/-- The bracket pairs of the help text. -/
def bracketPairs : List (Char × Char) := [('(', ')'), ('[', ']'), ('\x7b', '\x7d')]

/-- A character that opens or closes one of the pairs. -/
def isBracket (c : Char) : Bool := bracketPairs.any fun pair => c == pair.1 || c == pair.2

/-- Text whose brackets nest: each opening bracket is closed by its own kind, and no closing
bracket stands without its opening one. -/
inductive Balanced : List Char → Prop
  | nil : Balanced []
  | plain {c : Char} {rest : List Char} : isBracket c = false → Balanced rest → Balanced (c :: rest)
  | wrap {o c : Char} {inside rest : List Char} : (o, c) ∈ bracketPairs → Balanced inside →
      Balanced rest → Balanced (o :: inside ++ c :: rest)

theorem Balanced.append {s t : List Char} (first : Balanced s) (second : Balanced t) :
    Balanced (s ++ t) := by
  induction first with
  | nil => exact second
  | plain bare _ ih => exact .plain bare ih
  | wrap pair inside _ _ ih => simpa using Balanced.wrap pair inside ih

theorem Balanced.of_bare {s : List Char} (bare : ∀ c ∈ s, isBracket c = false) : Balanced s := by
  induction s with
  | nil => exact .nil
  | cons c rest ih =>
      exact .plain (bare c (List.mem_cons_self _ _)) (ih fun d mem => bare d (List.mem_cons_of_mem _ mem))

theorem Balanced.enclose {o c : Char} {inside : List Char} (pair : (o, c) ∈ bracketPairs)
    (balanced : Balanced inside) : Balanced (o :: inside ++ [c]) :=
  .wrap pair balanced .nil

/-- What the printers need of one argument: an object lists no object among its members, and the
name and one-line description hold no bracket. -/
structure RPCArg.Plain (arg : RPCArg) : Prop where
  members : arg.type.isObject = true → ∀ member ∈ arg.inner, member.type.isObject = false
  name : ∀ c ∈ arg.name.data, isBracket c = false
  oneline : ∀ c ∈ arg.onelineDescription.data, isBracket c = false

instance (arg : RPCArg) : Decidable arg.Plain :=
  decidable_of_iff ((arg.type.isObject = true → ∀ member ∈ arg.inner, member.type.isObject = false)
      ∧ (∀ c ∈ arg.name.data, isBracket c = false) ∧ ∀ c ∈ arg.onelineDescription.data, isBracket c = false)
    ⟨fun ⟨members, name, oneline⟩ => ⟨members, name, oneline⟩,
      fun ⟨members, name, oneline⟩ => ⟨members, name, oneline⟩⟩

mutual

/-- The arguments of a tree, the root first. -/
def RPCArg.nodes : RPCArg → List RPCArg
  | arg@⟨_, _, _, inner, _⟩ => arg :: RPCArg.nodesOf inner

/-- The arguments of a list of trees. -/
def RPCArg.nodesOf : List RPCArg → List RPCArg
  | [] => []
  | arg :: rest => arg.nodes ++ RPCArg.nodesOf rest

end

theorem RPCArg.nodesOf_cons {arg : RPCArg} {rest : List RPCArg} {P : RPCArg → Prop}
    (all : ∀ node ∈ RPCArg.nodesOf (arg :: rest), P node) :
    (∀ node ∈ arg.nodes, P node) ∧ ∀ node ∈ RPCArg.nodesOf rest, P node := by
  simp only [nodesOf, List.mem_append] at all
  exact ⟨fun node mem => all node (.inl mem), fun node mem => all node (.inr mem)⟩

/-- A quoted name is plain text. -/
theorem balanced_quoted {name : String} (bare : ∀ c ∈ name.data, isBracket c = false) :
    Balanced ("\"" ++ name ++ "\"").data := by
  have quote : ∀ c ∈ "\"".data, isBracket c = false := by decide
  refine .of_bare ?_
  simp only [String.data_append, List.mem_append]
  rintro c ((first | inName) | last)
  · exact quote c first
  · exact bare c inName
  · exact quote c last

theorem curly_pair : ('\x7b', '\x7d') ∈ bracketPairs := by decide

theorem square_pair : ('[', ']') ∈ bracketPairs := by decide

mutual

theorem RPCArg.toString_plain : ∀ arg : RPCArg, (∀ node ∈ arg.nodes, node.Plain) →
    ∃ text, arg.toString = some text ∧ Balanced text.data
  | ⟨name, type, optional, inner, oneline⟩, plain => by
      have root := plain _ (List.mem_cons_self _ _)
      have below : ∀ node ∈ RPCArg.nodesOf inner, node.Plain :=
        fun node mem => plain node (List.mem_cons_of_mem _ mem)
      cases described : oneline.isEmpty
      · exact ⟨oneline, by rw [toString.eq_def]; simp only [described, Bool.not_false, if_true],
          .of_bare root.oneline⟩
      · cases type with
        | str | strHex =>
            exact ⟨"\"" ++ name ++ "\"", by simp [toString, described], balanced_quoted root.name⟩
        | num | amount | bool => exact ⟨name, by simp [toString, described], .of_bare root.name⟩
        | obj =>
            obtain ⟨members, printed, balanced⟩ :=
              RPCArg.objectMembers_plain "" inner (root.members rfl) below
            refine ⟨"\x7b" ++ members ++ "\x7d", by simp [toString, described, printed], ?_⟩
            simpa using Balanced.enclose curly_pair balanced
        | objUserKeys =>
            obtain ⟨members, printed, balanced⟩ :=
              RPCArg.objectMembers_plain "" inner (root.members rfl) below
            refine ⟨"\x7b" ++ members ++ ",...\x7d", by simp [toString, described, printed], ?_⟩
            simpa using Balanced.enclose curly_pair
              (balanced.append (Balanced.of_bare (by decide) : Balanced ",...".data))
        | arr =>
            obtain ⟨items, printed, balanced⟩ := RPCArg.arrayItems_plain "" inner below
            refine ⟨"[" ++ items ++ "...]", by simp [toString, described, printed], ?_⟩
            simpa using Balanced.enclose square_pair
              (balanced.append (Balanced.of_bare (by decide) : Balanced "...".data))

theorem RPCArg.toStringObj_plain : ∀ arg : RPCArg, arg.type.isObject = false →
    (∀ node ∈ arg.nodes, node.Plain) → ∃ text, arg.toStringObj = some text ∧ Balanced text.data
  | ⟨name, type, optional, inner, oneline⟩, member, plain => by
      have root := plain _ (List.mem_cons_self _ _)
      have below : ∀ node ∈ RPCArg.nodesOf inner, node.Plain :=
        fun node mem => plain node (List.mem_cons_of_mem _ mem)
      have key : Balanced ("\"" ++ name ++ "\":").data := by
        simpa using (balanced_quoted root.name).append
          (Balanced.of_bare (by decide) : Balanced ":".data)
      have typed : ∀ {suffix : String}, (∀ c ∈ suffix.data, isBracket c = false) →
          Balanced ("\"" ++ name ++ "\":" ++ suffix).data := fun bare => by
        simpa using key.append (.of_bare bare)
      cases type with
      | obj | objUserKeys => simp [RPCArgType.isObject] at member
      | str => exact ⟨"\"" ++ name ++ "\":" ++ "\"str\"", by simp [toStringObj], typed (by decide)⟩
      | strHex => exact ⟨"\"" ++ name ++ "\":" ++ "\"hex\"", by simp [toStringObj], typed (by decide)⟩
      | num => exact ⟨"\"" ++ name ++ "\":" ++ "n", by simp [toStringObj], typed (by decide)⟩
      | amount => exact ⟨"\"" ++ name ++ "\":" ++ "amount", by simp [toStringObj], typed (by decide)⟩
      | bool => exact ⟨"\"" ++ name ++ "\":" ++ "bool", by simp [toStringObj], typed (by decide)⟩
      | arr =>
          obtain ⟨items, printed, balanced⟩ := RPCArg.arrayItems_plain ("\"" ++ name ++ "\":" ++ "[") inner below
          refine ⟨"\"" ++ name ++ "\":" ++ "[" ++ items ++ "...]", by simp [toStringObj, printed], ?_⟩
          simpa using key.append (Balanced.enclose square_pair
            (balanced.append (Balanced.of_bare (by decide) : Balanced "...".data)))

theorem RPCArg.arrayItems_plain : ∀ (res : String) (inner : List RPCArg),
    (∀ node ∈ RPCArg.nodesOf inner, node.Plain) →
      ∃ items, RPCArg.arrayItems res inner = some (res ++ items) ∧ Balanced items.data
  | res, [], _ => ⟨"", by simp [arrayItems], .nil⟩
  | res, i :: rest, plain => by
      obtain ⟨first, more⟩ := RPCArg.nodesOf_cons plain
      obtain ⟨text, printed, balanced⟩ := RPCArg.toString_plain i first
      obtain ⟨items, printedRest, balancedRest⟩ := RPCArg.arrayItems_plain (res ++ text ++ ",") rest more
      refine ⟨text ++ "," ++ items, by simpa [arrayItems, printed, String.append_assoc] using printedRest, ?_⟩
      simpa using balanced.append ((Balanced.of_bare (by decide) : Balanced ",".data).append balancedRest)

theorem RPCArg.objectMembers_plain : ∀ (res : String) (inner : List RPCArg),
    (∀ member ∈ inner, member.type.isObject = false) → (∀ node ∈ RPCArg.nodesOf inner, node.Plain) →
      ∃ members, RPCArg.objectMembers res inner = some (res ++ members) ∧ Balanced members.data
  | res, [], _, _ => ⟨"", by simp [objectMembers], .nil⟩
  | res, [i], members, plain => by
      obtain ⟨text, printed, balanced⟩ :=
        RPCArg.toStringObj_plain i (members i (List.mem_singleton_self _)) (RPCArg.nodesOf_cons plain).1
      exact ⟨text, by simp [objectMembers, printed], balanced⟩
  | res, i :: j :: rest, members, plain => by
      obtain ⟨first, more⟩ := RPCArg.nodesOf_cons plain
      obtain ⟨text, printed, balanced⟩ :=
        RPCArg.toStringObj_plain i (members i (List.mem_cons_self _ _)) first
      obtain ⟨items, printedRest, balancedRest⟩ := RPCArg.objectMembers_plain (res ++ text ++ ",")
        (j :: rest) (fun member mem => members member (List.mem_cons_of_mem _ mem)) more
      refine ⟨text ++ "," ++ items,
        by simpa [objectMembers, printed, String.append_assoc] using printedRest, ?_⟩
      simpa using balanced.append ((Balanced.of_bare (by decide) : Balanced ",".data).append balancedRest)

end

theorem printEach_plain {args : List RPCArg} (plain : ∀ arg ∈ args, ∀ node ∈ arg.nodes, node.Plain) :
    ∃ texts, printEach args = some texts ∧ ∀ text ∈ texts, Balanced text.data := by
  induction args with
  | nil => exact ⟨[], rfl, List.forall_mem_nil _⟩
  | cons arg rest ih =>
      obtain ⟨text, printed, balanced⟩ := RPCArg.toString_plain arg (plain arg (List.mem_cons_self _ _))
      obtain ⟨texts, printedRest, balancedRest⟩ := ih fun a mem => plain a (List.mem_cons_of_mem _ mem)
      exact ⟨text :: texts, by simp [printed, printedRest], List.forall_mem_cons.mpr ⟨balanced, balancedRest⟩⟩

theorem paren_pair : ('(', ')') ∈ bracketPairs := by decide

theorem balanced_space : Balanced " ".data := .of_bare (by decide)

theorem balanced_spaced {texts : List String} (balanced : ∀ text ∈ texts, Balanced text.data) :
    Balanced (spaced texts).data := by
  induction texts with
  | nil => exact .nil
  | cons text rest ih =>
      obtain ⟨first, more⟩ := List.forall_mem_cons.mp balanced
      simpa using balanced_space.append (first.append (ih more))

theorem balanced_optionalGroup {texts : List String} (balanced : ∀ text ∈ texts, Balanced text.data) :
    Balanced (optionalGroup texts).data := by
  cases texts with
  | nil => exact .nil
  | cons first rest =>
      obtain ⟨head, more⟩ := List.forall_mem_cons.mp balanced
      have inside : Balanced (" " ++ first ++ spaced rest ++ " ").data := by
        simpa using balanced_space.append ((head.append (balanced_spaced more)).append balanced_space)
      simpa [optionalGroup] using balanced_space.append (Balanced.enclose paren_pair inside)

/-- The help of an RPC whose arguments come required first and are plain prints without tripping
an assert, and the brackets of its line nest. -/
theorem RPCHelpMan.toString_balanced (help : RPCHelpMan) {required optional : List RPCArg}
    (split : help.args = required ++ optional) (allRequired : ∀ arg ∈ required, arg.optional = false)
    (allOptional : ∀ arg ∈ optional, arg.optional = true)
    (bareName : ∀ c ∈ help.name.data, isBracket c = false)
    (plain : ∀ arg ∈ help.args, ∀ node ∈ arg.nodes, node.Plain) :
    ∃ line, help.toString = some (line ++ "\n" ++ help.description) ∧ Balanced line.data := by
  rw [split] at plain
  obtain ⟨requiredTexts, requiredPrinted, requiredBalanced⟩ :=
    printEach_plain fun arg mem => plain arg (List.mem_append_left _ mem)
  obtain ⟨optionalTexts, optionalPrinted, optionalBalanced⟩ :=
    printEach_plain fun arg mem => plain arg (List.mem_append_right _ mem)
  refine ⟨helpLine help.name requiredTexts optionalTexts, ?_, ?_⟩
  · simp [toString_of_split help split allRequired allOptional, requiredPrinted, optionalPrinted]
  · simpa [helpLine] using ((Balanced.of_bare bareName).append (balanced_spaced requiredBalanced)).append
      (balanced_optionalGroup optionalBalanced)

/-- An RPC taking an array of objects, one of whose members is an array, and an optional flag. -/
def sampleHelp : RPCHelpMan :=
  ⟨"sample", "",
    [⟨"requests", .arr, false,
      [⟨"", .obj, false,
        [⟨"scriptPubKey", .str, false, [], ""⟩, ⟨"keys", .arr, true, [⟨"key", .str, false, [], ""⟩], ""⟩],
        ""⟩],
      ""⟩,
    ⟨"rescan", .bool, true, [], ""⟩]⟩

theorem sampleHelp_balanced :
    ∃ line, sampleHelp.toString = some (line ++ "\n" ++ sampleHelp.description) ∧ Balanced line.data :=
  @RPCHelpMan.toString_balanced sampleHelp (sampleHelp.args.take 1) (sampleHelp.args.drop 1) rfl
    (by decide) (by decide) (by decide) (by decide)

end Rpc
