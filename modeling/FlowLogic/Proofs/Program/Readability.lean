import FlowLogic.Proofs.Outcome
import FlowLogic.Proofs.Program.Spelling
import FlowLogic.Proofs.Program.Subtree
import FlowLogic.Sandbox.Interpreter
import Mathlib.Data.List.Forall2

/-!
The source text of a program tells what the program does.  A program is flattened to its leaves, the
constants, lookups and calls between the points of its text.  Leaves with the same text do the same,
by induction on the arguments of calls, and so do programs made of them.
-/

namespace FlowLogic

open Outcome

namespace Node

open Fragment (Form Spells Follows formAt isNamePart)

variable {env : Environment} {data : Bindings}

inductive Lowered : Node → Prop
  | literal (value : Json) : Lowered (.literal value)
  | blank {text : String} (blank : Text.isBlankText text = true) : Lowered (.raw text (.str text))
  | fragment {source : String} {value : Json}
      (read : Fragment.read? source = some [.literal value]) : Lowered (.raw source value)
  | lookup (path : List String) : Lowered (.lookup path)
  | call {name : String} {arguments : List Node} (named : name ≠ "")
      (lowered : ∀ argument ∈ arguments, Lowered argument) : Lowered (.call name arguments)
  | concat {parts : List Node} (lowered : ∀ part ∈ parts, Lowered part) : Lowered (.concat parts)

mutual

/-- The parts that points stand between in the source text. -/
def leaves : Node → List Node
  | concat parts => leavesAll parts
  | node => [node]

def leavesAll : List Node → List Node
  | [] => []
  | node :: rest => node.leaves ++ leavesAll rest

end

theorem leavesAll_eq (nodes : List Node) : leavesAll nodes = nodes.flatMap leaves := by
  induction nodes with
  | nil => rfl
  | cons node rest ih => rw [leavesAll, ih, List.flatMap_cons]

/-- What keeps the source text readable: called names without white space, quotes and brackets,
appendings of at least two parts, and numbers that their texts mean. -/
structure Legible (node : Node) : Prop where
  names : ∀ name arguments, Within (.call name arguments) node →
    ∀ c ∈ name.toList, isNamePart c = true
  appends : ∀ parts, Within (.concat parts) node → 2 ≤ (concat parts).leaves.length
  numbers : ∀ n, Within (.literal (.num n)) node → n.Exact

theorem Legible.child {node child : Node} (legible : node.Legible)
    (member : child ∈ node.children) : child.Legible where
  names := fun name arguments within => legible.names name arguments (.child member within)
  appends := fun parts within => legible.appends parts (.child member within)
  numbers := fun n within => legible.numbers n (.child member within)

theorem Legible.of_children {node : Node}
    (names : ∀ name arguments, node = .call name arguments → ∀ c ∈ name.toList, isNamePart c = true)
    (appends : ∀ parts, node = .concat parts → 2 ≤ node.leaves.length)
    (numbers : ∀ n, node = .literal (.num n) → n.Exact)
    (below : ∀ child ∈ node.children, child.Legible) : node.Legible where
  names := by
    rintro name arguments (_ | ⟨member, within⟩)
    · exact names name arguments rfl
    · exact (below _ member).names name arguments within
  appends := by
    rintro parts (_ | ⟨member, within⟩)
    · exact appends parts rfl
    · exact (below _ member).appends parts within
  numbers := by
    rintro n (_ | ⟨member, within⟩)
    · exact numbers n rfl
    · exact (below _ member).numbers n within

/-- Programs that call the same functions and have the same results. -/
structure Alike (node other : Node) : Prop where
  eval : ∀ env data, node.eval env data = other.eval env data
  calls : node.calls = other.calls

theorem Alike.evalAll {nodes others : List Node} (alike : List.Forall₂ Alike nodes others)
    (env : Environment) (data : Bindings) : evalAll env data nodes = evalAll env data others := by
  induction alike with
  | nil => rfl
  | cons first _ ih => rw [Node.evalAll, Node.evalAll, first.eval, ih]

theorem Alike.callsAll {nodes others : List Node} (alike : List.Forall₂ Alike nodes others) :
    callsAll nodes = callsAll others := by
  induction alike with
  | nil => rfl
  | cons first _ ih => rw [Node.callsAll, Node.callsAll, first.calls, ih]

theorem Alike.call (name : String) {arguments others : List Node}
    (alike : List.Forall₂ Alike arguments others) :
    (call name arguments).Alike (call name others) where
  eval := by
    intro env data
    simp only [Node.eval, alike.length_eq, Alike.evalAll alike]
  calls := by
    simp only [Node.calls, alike.length_eq, Alike.callsAll alike]

def textAll (env : Environment) (data : Bindings) (nodes : List Node) :
    Except RunFault (List Char) :=
  (evalAll env data nodes).map (·.flatMap Json.asChars)

theorem textAll_cons (node : Node) (rest : List Node) :
    textAll env data (node :: rest) =
      (node.eval env data).map Json.asChars >>= fun text =>
        (textAll env data rest).map (text ++ ·) := by
  simp only [textAll, evalAll]
  cases node.eval env data with
  | error fault => rfl
  | ok value => cases evalAll env data rest <;> rfl

theorem textAll_append (nodes others : List Node) :
    textAll env data (nodes ++ others) =
      textAll env data nodes >>= fun text => (textAll env data others).map (text ++ ·) := by
  induction nodes with
  | nil =>
      have none : textAll env data [] = .ok [] := rfl
      rw [List.nil_append, none, ok_bind]
      cases textAll env data others <;> rfl
  | cons node rest ih =>
      rw [List.cons_append, textAll_cons, textAll_cons, ih]
      cases node.eval env data with
      | error fault => rfl
      | ok value =>
          cases textAll env data rest with
          | error fault => rfl
          | ok text => cases textAll env data others <;> simp

theorem eval_concat_eq_textAll (parts : List Node) :
    (concat parts).eval env data =
      (textAll env data parts).map fun text => .str (String.ofList text) := by
  simp only [Node.eval, textAll]
  cases evalAll env data parts <;> rfl

theorem textAll_flatMap_leaves {nodes : List Node}
    (each : ∀ node ∈ nodes, textAll env data node.leaves = (node.eval env data).map Json.asChars) :
    textAll env data (nodes.flatMap leaves) = textAll env data nodes := by
  induction nodes with
  | nil => rfl
  | cons node rest ih =>
      rw [List.forall_mem_cons] at each
      rw [List.flatMap_cons, textAll_append, each.1, ih each.2, textAll_cons]

theorem textAll_leaves (node : Node) :
    textAll env data node.leaves = (node.eval env data).map Json.asChars := by
  induction node using induction_on_children with
  | step node ih =>
      cases node with
      | concat parts =>
          have flat : textAll env data (parts.flatMap leaves) = textAll env data parts :=
            textAll_flatMap_leaves ih
          rw [leaves, leavesAll_eq, flat, eval_concat_eq_textAll]
          cases textAll env data parts <;> simp [Json.asChars]
      | _ =>
          simp only [leaves, textAll, evalAll]
          generalize eval env data _ = outcome
          cases outcome <;> simp

theorem eval_concat_leaves (parts : List Node) :
    (concat parts).eval env data =
      (textAll env data (concat parts).leaves).map fun text => .str (String.ofList text) := by
  rw [leaves, leavesAll_eq, textAll_flatMap_leaves fun node _ => textAll_leaves node,
    eval_concat_eq_textAll]

theorem calls_leaves (node : Node) : callsAll node.leaves = node.calls := by
  induction node using induction_on_children with
  | step node ih =>
      cases node with
      | concat parts =>
          simp only [callsAll_eq, leaves, leavesAll_eq, calls, List.flatMap_assoc] at ih ⊢
          exact List.flatMap_congr ih
      | _ => simp [leaves, callsAll]

theorem leaves_of_length_lt {node : Node} (single : node.leaves.length < 2)
    (legible : node.Legible) : node.leaves = [node] := by
  cases node with
  | concat parts => exact absurd (legible.appends parts .self) (Nat.not_le.mpr single)
  | _ => rfl

theorem Alike.of_leaves {node other : Node} (legible : node.Legible) (legibleOther : other.Legible)
    (alike : List.Forall₂ Alike node.leaves other.leaves) : node.Alike other := by
  have lengths := alike.length_eq
  by_cases single : node.leaves.length < 2
  · rw [leaves_of_length_lt single legible,
      leaves_of_length_lt (lengths ▸ single) legibleOther] at alike
    cases alike with
    | cons first _ => exact first
  · have appends : ∀ {node : Node}, 2 ≤ node.leaves.length → ∀ env data, node.eval env data =
        (textAll env data node.leaves).map fun text => .str (String.ofList text) := by
      intro node several env data
      cases node with
      | concat parts => exact eval_concat_leaves parts
      | _ => exact absurd several (by simp [leaves])
    constructor
    · intro env data
      rw [appends (Nat.not_lt.mp single), appends (lengths ▸ Nat.not_lt.mp single), textAll,
        textAll, Alike.evalAll alike]
    · rw [← calls_leaves, ← calls_leaves, Alike.callsAll alike]

theorem charsAll_eq (nodes : List Node) : charsAll nodes = nodes.map chars := by
  induction nodes with
  | nil => rfl
  | cons node rest ih => rw [charsAll, ih, List.map_cons]

theorem Legible.leaves_ne_nil {node : Node} (legible : node.Legible) : node.leaves ≠ [] := by
  cases node with
  | concat parts =>
      intro empty
      have several := legible.appends parts .self
      simp [empty] at several
  | _ => simp [leaves]

def pieces (node : Node) : List (List Char) := node.leaves.map chars

theorem pieces_concat (parts : List Node) : (concat parts).pieces = (parts.map pieces).flatten := by
  rw [pieces, leaves, leavesAll_eq, List.map_flatMap, List.flatMap_def]
  rfl

theorem chars_concat {parts : List Node} (filled : ∀ part ∈ parts, part.leaves ≠ [])
    (each : ∀ part ∈ parts, part.chars = Text.join " . ".toList part.pieces) :
    (concat parts).chars = Text.join " . ".toList (concat parts).pieces := by
  have groups : ∀ group ∈ parts.map pieces, group ≠ [] := by
    intro group member
    obtain ⟨part, inParts, rfl⟩ := List.mem_map.mp member
    simpa [pieces] using filled part inParts
  have texts : parts.map chars = (parts.map pieces).map (Text.join " . ".toList) := by
    rw [List.map_map]
    exact List.map_congr_left each
  have whole : (concat parts).chars = Text.join " . ".toList (charsAll parts) := rfl
  rw [whole, charsAll_eq, texts, Text.join_flatten _ groups, pieces_concat]

theorem Legible.chars_eq_join {node : Node} (legible : node.Legible) :
    node.chars = Text.join " . ".toList node.pieces := by
  induction node using induction_on_children with
  | step node ih =>
      cases node with
      | concat parts =>
          exact chars_concat (fun part member => (legible.child member).leaves_ne_nil)
            fun part member => ih part member (legible.child member)
      | _ => simp only [pieces, leaves, List.map_cons, List.map_nil, Text.join]

def constant? : Node → Option Json
  | literal value | raw _ value => some value
  | _ => none

inductive Piece : Form → Node → Prop
  | constant {form : Form} {node : Node} {value : Json} (means : node.constant? = some value)
      (spells : Spells form node.chars value) : Piece form node
  | lookup (path : List String) : Piece .lookup (.lookup path)
  | call {name : String} {arguments : List Node} (named : name ≠ "")
      (clear : ∀ c ∈ name.toList, isNamePart c = true)
      (lowered : ∀ argument ∈ arguments, Lowered argument)
      (legible : ∀ argument ∈ arguments, Legible argument) : Piece .call (.call name arguments)

theorem Alike.of_constant {node other : Node} {value : Json} (means : node.constant? = some value)
    (meansOther : other.constant? = some value) : node.Alike other := by
  have evaluates : ∀ {node : Node}, node.constant? = some value →
      (∀ env data, node.eval env data = .ok value) ∧ node.calls = [] := by
    intro node means
    cases node with
    | literal | raw =>
        cases means
        exact ⟨fun _ _ => rfl, rfl⟩
    | _ => cases means
  obtain ⟨results, calls⟩ := evaluates means
  obtain ⟨resultsOther, callsOther⟩ := evaluates meansOther
  constructor
  · intro env data
    rw [results, resultsOther]
  · rw [calls, callsOther]

theorem Lowered.exists_piece {node : Node} (lowered : node.Lowered) (legible : node.Legible)
    (leaf : ∀ parts, node ≠ .concat parts) : ∃ form, Piece form node := by
  cases lowered with
  | literal value =>
      have exact : ∀ n, value = .num n → n.Exact := by
        rintro n rfl
        exact legible.numbers n .self
      obtain ⟨form, spells⟩ := Fragment.spells_literalChars exact
      exact ⟨form, .constant rfl spells⟩
  | @blank text blank =>
      have spells : Spells .blank text.toList (.str (String.ofList text.toList)) :=
        .blank (by simpa [Text.isBlankText, Text.AllBlank] using blank)
      rw [String.ofList_toList] at spells
      exact ⟨.blank, .constant rfl spells⟩
  | fragment read =>
      obtain ⟨form, spells⟩ := Fragment.exists_spells_of_read? read
      exact ⟨form, .constant rfl spells⟩
  | lookup path => exact ⟨.lookup, .lookup path⟩
  | call named lowered =>
      exact ⟨.call, .call named (legible.names _ _ .self) lowered fun _ => legible.child⟩
  | concat => exact absurd rfl (leaf _)

theorem lookup_chars (path : List String) :
    (lookup path).chars = "data".toList ++ path.flatMap bracketed := rfl

theorem call_chars (name : String) (arguments : List Node) :
    (call name arguments).chars =
      name.toList ++
        parenthesised (Text.join ", ".toList ((charsAll arguments).map parenthesised)) :=
  rfl

theorem Piece.formAt {form : Form} {node : Node} {rest : List Char} (piece : Piece form node)
    (follows : Follows rest) : formAt (node.chars ++ rest) = form := by
  have none : Text.AllBlank [] := by simp [Text.AllBlank]
  cases piece with
  | constant means spells => exact spells.formAt follows
  | lookup path =>
      have parts : ∀ c ∈ "data".toList, isNamePart c = true := List.all_eq_true.mp rfl
      rw [lookup_chars, List.append_assoc]
      cases path with
      | nil =>
          have found := Fragment.formAt_eq [] "data".toList rest none parts
            (follows.stopsAt rfl rfl) (by simp)
          exact found.trans (Fragment.formOf_word _ none follows)
      | cons segment path =>
          exact Fragment.formAt_eq [] "data".toList _ none parts (Text.stopsAt_cons.mpr rfl)
            (by simp)
  | @call name arguments named clear _ _ =>
      rw [call_chars, List.append_assoc]
      exact Fragment.formAt_eq [] name.toList _ none clear (Text.stopsAt_cons.mpr rfl)
        fun empty => absurd (String.toList_eq_nil_iff.mp empty) named

/-- A text that a whole program can be followed by. -/
inductive Ends : List Char → Prop
  | nil : Ends []
  | close (rest : List Char) : Ends (')' :: rest)

theorem Ends.follows {rest : List Char} (ends : Ends rest) : Follows rest := by
  cases ends with
  | nil => exact .nil
  | close rest => exact .close rest

def pointed (nodes : List Node) (rest : List Char) : List Char :=
  (nodes.map chars).flatMap (" . ".toList ++ ·) ++ rest

theorem pointed_cons (node : Node) (nodes : List Node) (rest : List Char) :
    pointed (node :: nodes) rest = " . ".toList ++ (node.chars ++ pointed nodes rest) := by
  simp [pointed]

theorem Ends.ne_pointed {rest : List Char} (ends : Ends rest) (node : Node) (nodes : List Node)
    (more : List Char) : rest ≠ pointed (node :: nodes) more := by
  rw [pointed_cons]
  cases ends <;> simp

theorem Ends.follows_pointed {rest : List Char} (ends : Ends rest) (nodes : List Node) :
    Follows (pointed nodes rest) := by
  cases nodes with
  | nil => exact ends.follows
  | cons node nodes =>
      rw [pointed_cons]
      exact .point _

/-- Whatever leaf has the text of this one, up to where the next part may begin, is like it. -/
def Told (leaf : Node) : Prop :=
  ∀ {form : Form} {other : Node} {rest more : List Char}, Piece form other → Follows rest →
    Follows more → leaf.chars ++ rest = other.chars ++ more → leaf.Alike other ∧ rest = more

theorem pointed_cancel {leaves others : List Node} {rest more : List Char}
    (told : ∀ leaf ∈ leaves, Told leaf) (pieces : ∀ other ∈ others, ∃ form, Piece form other)
    (ends : Ends rest) (endsMore : Ends more)
    (same : pointed leaves rest = pointed others more) :
    List.Forall₂ Alike leaves others ∧ rest = more := by
  induction leaves generalizing others with
  | nil =>
      cases others with
      | nil => exact ⟨.nil, same⟩
      | cons other others => exact absurd same (ends.ne_pointed other others more)
  | cons leaf leaves ih =>
      cases others with
      | nil => exact absurd same.symm (endsMore.ne_pointed leaf leaves rest)
      | cons other others =>
          rw [List.forall_mem_cons] at told pieces
          obtain ⟨form, piece⟩ := pieces.1
          rw [pointed_cons, pointed_cons, List.append_cancel_left_eq] at same
          obtain ⟨alike, later⟩ := told.1 piece (ends.follows_pointed leaves)
            (endsMore.follows_pointed others) same
          obtain ⟨alikeRest, rests⟩ := ih told.2 pieces.2 later
          exact ⟨.cons alike alikeRest, rests⟩

theorem Legible.pointed_leaves {node : Node} (legible : node.Legible) (rest : List Char) :
    pointed node.leaves rest = " . ".toList ++ (node.chars ++ rest) := by
  have filled := legible.leaves_ne_nil
  rw [legible.chars_eq_join, pieces, pointed]
  cases leaves : node.leaves with
  | nil => exact absurd leaves filled
  | cons leaf others =>
      simp only [List.map_cons, Text.join_cons, List.flatMap_cons, List.append_assoc]

theorem mem_leaves {leaf node : Node} (member : leaf ∈ node.leaves) :
    (leaf = node ∧ ∀ parts, node ≠ .concat parts) ∨ ∃ part ∈ node.children, leaf ∈ part.leaves := by
  cases node with
  | concat parts =>
      rw [leaves, leavesAll_eq, List.mem_flatMap] at member
      exact .inr member
  | _ => exact .inl ⟨List.mem_singleton.mp member, fun _ same => by cases same⟩

theorem Lowered.child {node child : Node} (lowered : node.Lowered)
    (member : child ∈ node.children) : child.Lowered := by
  cases lowered with
  | call _ lowered | concat lowered => exact lowered child member
  | _ => cases member

theorem Lowered.exists_pieces {node : Node} (lowered : node.Lowered) (legible : node.Legible) :
    ∀ leaf ∈ node.leaves, ∃ form, Piece form leaf := by
  induction node using induction_on_children with
  | step node ih =>
      intro leaf member
      rcases mem_leaves member with ⟨rfl, single⟩ | ⟨part, inParts, member⟩
      · exact lowered.exists_piece legible single
      · exact ih part inParts (lowered.child inParts) (legible.child inParts) leaf member

theorem cancel_of_told {node other : Node} {rest more : List Char} (legible : node.Legible)
    (told : ∀ leaf ∈ node.leaves, Told leaf) (lowered : other.Lowered)
    (legibleOther : other.Legible) (ends : Ends rest) (endsMore : Ends more)
    (same : node.chars ++ rest = other.chars ++ more) : node.Alike other ∧ rest = more := by
  have texts : pointed node.leaves rest = pointed other.leaves more := by
    rw [legible.pointed_leaves, legibleOther.pointed_leaves, same]
  obtain ⟨alike, rests⟩ :=
    pointed_cancel told (lowered.exists_pieces legibleOther) ends endsMore texts
  exact ⟨.of_leaves legible legibleOther alike, rests⟩

def listed (arguments : List Node) (rest : List Char) : List Char :=
  (arguments.map chars).flatMap (fun text => ", ".toList ++ parenthesised text) ++ ')' :: rest

theorem listed_cons (argument : Node) (arguments : List Node) (rest : List Char) :
    listed (argument :: arguments) rest =
      ", ".toList ++ '(' :: (argument.chars ++ ')' :: listed arguments rest) := by
  simp [listed, parenthesised]

theorem listed_eq {arguments others : List Node} {rest more : List Char}
    (same : Text.join ", ".toList ((charsAll arguments).map parenthesised) ++ ')' :: rest =
      Text.join ", ".toList ((charsAll others).map parenthesised) ++ ')' :: more) :
    listed arguments rest = listed others more := by
  have behind : ∀ (argument : Node) (arguments : List Node) (rest : List Char),
      listed (argument :: arguments) rest = ", ".toList ++
        (Text.join ", ".toList ((charsAll (argument :: arguments)).map parenthesised) ++
          ')' :: rest) := by
    intro argument arguments rest
    simp [listed, charsAll, charsAll_eq, Text.join_cons, List.flatMap_map]
  cases arguments with
  | nil =>
      cases others with
      | nil => exact same
      | cons other others => simp [charsAll, Text.join_cons, Text.join, parenthesised] at same
  | cons argument arguments =>
      cases others with
      | nil => simp [charsAll, Text.join_cons, Text.join, parenthesised] at same
      | cons other others => rw [behind, behind, same]

theorem listed_cancel {arguments others : List Node} {rest more : List Char}
    (legible : ∀ argument ∈ arguments, argument.Legible)
    (told : ∀ argument ∈ arguments, ∀ leaf ∈ argument.leaves, Told leaf)
    (lowered : ∀ other ∈ others, other.Lowered) (legibleOthers : ∀ other ∈ others, other.Legible)
    (same : listed arguments rest = listed others more) :
    List.Forall₂ Alike arguments others ∧ rest = more := by
  induction arguments generalizing others with
  | nil =>
      cases others with
      | nil => exact ⟨.nil, by simpa [listed] using same⟩
      | cons other others =>
          rw [listed_cons] at same
          simp [listed] at same
  | cons argument arguments ih =>
      cases others with
      | nil =>
          rw [listed_cons] at same
          simp [listed] at same
      | cons other others =>
          rw [List.forall_mem_cons] at legible told lowered legibleOthers
          rw [listed_cons, listed_cons, List.append_cancel_left_eq, List.cons_inj_right] at same
          obtain ⟨alike, later⟩ := cancel_of_told legible.1 told.1 lowered.1 legibleOthers.1
            (.close _) (.close _) same
          obtain ⟨alikeRest, rests⟩ := ih legible.2 told.2 lowered.2 legibleOthers.2
            (List.cons.inj later).2
          exact ⟨.cons alike alikeRest, rests⟩

theorem Piece.told {form : Form} {leaf : Node} (piece : Piece form leaf)
    (told : ∀ argument ∈ leaf.children, ∀ inner ∈ argument.leaves, Told inner) : Told leaf := by
  intro formOther other rest more pieceOther follows followsMore same
  -- Both leaves are at the start of one text, which tells their form.
  have forms := piece.formAt follows
  rw [same, pieceOther.formAt followsMore] at forms
  subst forms
  cases piece with
  | constant means spells =>
      cases pieceOther with
      | constant meansOther spellsOther =>
          obtain ⟨rfl, rests⟩ := spells.cancel spellsOther follows followsMore same
          exact ⟨.of_constant means meansOther, rests⟩
      | lookup path => cases spells
      | call => cases spells
  | lookup path =>
      cases pieceOther with
      | constant meansOther spellsOther => cases spellsOther
      | lookup third =>
          rw [lookup_chars, lookup_chars, List.append_assoc, List.append_assoc,
            List.append_cancel_left_eq] at same
          obtain ⟨rfl, rests⟩ := Fragment.bracketed_cancel (follows.stopsAt rfl rfl)
            (followsMore.stopsAt rfl rfl) same
          exact ⟨⟨fun _ _ => rfl, rfl⟩, rests⟩
  | @call name arguments named clear lowered legible =>
      cases pieceOther with
      | constant meansOther spellsOther => cases spellsOther
      | @call name' others namedOther clearOther loweredOther legibleOther =>
          rw [call_chars, call_chars, List.append_assoc, List.append_assoc] at same
          obtain ⟨names, calls⟩ := Text.run_cancel clear (Text.stopsAt_cons.mpr rfl) clearOther
            (Text.stopsAt_cons.mpr rfl) same
          obtain rfl := String.toList_inj.mp names
          have inner :
              Text.join ", ".toList ((charsAll arguments).map parenthesised) ++ ')' :: rest =
                Text.join ", ".toList ((charsAll others).map parenthesised) ++ ')' :: more := by
            simpa [parenthesised] using calls
          obtain ⟨alike, rests⟩ :=
            listed_cancel legible told loweredOther legibleOther (listed_eq inner)
          exact ⟨.call name alike, rests⟩

theorem Lowered.told {node : Node} (lowered : node.Lowered) (legible : node.Legible) :
    ∀ leaf ∈ node.leaves, Told leaf := by
  induction node using induction_on_children with
  | step node ih =>
      have below : ∀ child ∈ node.children, ∀ leaf ∈ child.leaves, Told leaf :=
        fun child member => ih child member (lowered.child member) (legible.child member)
      intro leaf member
      rcases mem_leaves member with ⟨rfl, single⟩ | ⟨part, inParts, member⟩
      · obtain ⟨form, piece⟩ := lowered.exists_piece legible single
        exact piece.told below
      · exact below part inParts leaf member

/-- Programs of values with the same source text are alike. -/
theorem Lowered.alike_of_code_eq {node other : Node} (lowered : node.Lowered)
    (loweredOther : other.Lowered) (legible : node.Legible) (legibleOther : other.Legible)
    (same : node.code = other.code) : node.Alike other := by
  have texts : node.chars ++ [] = other.chars ++ [] := by
    rw [List.append_nil, List.append_nil]
    exact String.ofList_inj.mp same
  exact (cancel_of_told legible (lowered.told legible) loweredOther legibleOther .nil .nil texts).1

end Node

theorem Environment.execute_congr {node other : Node} (alike : node.Alike other) (env : Environment)
    (data : Bindings) : env.execute node data = env.execute other data := by
  simp only [execute, Registry.check, run, alike.calls, alike.eval]

end FlowLogic
