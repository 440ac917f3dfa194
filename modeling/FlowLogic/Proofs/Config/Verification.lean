import FlowLogic.Config.Loading
import FlowLogic.Host.FileTree
import FlowLogic.Proofs.Outcome

/-!
Verification against loading.  Loading a configuration stops at the first function file that fails;
verification passes over such a file and goes on with the registry as it was before.  Up to the first
fault both go through the same registries, so they agree on whether there is one, and where.
-/

namespace FlowLogic

section Yields

variable {σ α β : Type} {state : σ}

/-- Run in the state, the program gives the result and leaves the state as it is. -/
def Yields (state : σ) (program : StateM σ α) (result : α) : Prop :=
  program.run state = (result, state)

theorem Yields.bind {program : StateM σ α} {next : α → StateM σ β} {value : α} {result : β}
    (first : Yields state program value) (second : Yields state (next value) result) :
    Yields state (program >>= next) result := by
  rw [Yields, StateT.run_bind, first]
  exact second

theorem Yields.unique {program : StateM σ α} {value other : α}
    (first : Yields state program value) (second : Yields state program other) : value = other :=
  congrArg Prod.fst (first.symm.trans second)

theorem Yields.of_toOption {ε : Type} {program : StateM Unit (Except ε α)} {value : α}
    (run : (program.run ()).1.toOption = some value) : Yields () program (.ok value) :=
  Prod.ext (Outcome.toOption_eq_some.mp run) rfl

end Yields

variable {σ : Type} {read : String → StateM σ (Except FileFault String)} {state : σ}

/-- Reading leaves the state as it is, so that a file reads the same every time. -/
def ReadsSteadily (read : String → StateM σ (Except FileFault String)) (state : σ) : Prop :=
  ∀ path, ∃ content, Yields state (read path) content

theorem Machine.readsSteadily (machine : Machine) : ReadsSteadily Machine.host.read machine :=
  fun _ => ⟨_, rfl⟩

namespace Registry

variable {r extended : Registry} {path : String} {paths : List String} {position : Nat}

theorem exists_addFile (steady : ReadsSteadily read state) (r : Registry) (path : String) :
    ∃ outcome, Yields state (r.addFile read path) outcome := by
  obtain ⟨content, given⟩ := steady path
  cases content with
  | error fault => exact ⟨_, given.bind rfl⟩
  | ok text =>
      cases described : FunctionGroup.ofFile path text with
      | error fault => exact ⟨.error (.file fault), given.bind (by simp only [described]; rfl)⟩
      | ok groups =>
          rcases submitted : r.submit groups with ⟨after, fault | count⟩
          · exact ⟨.error (.registration path fault),
              given.bind (by simp only [described, submitted]; rfl)⟩
          · exact ⟨.ok after, given.bind (by simp only [described, submitted]; rfl)⟩

/-- The file at the position cannot be added to the registry that those before it lead to. -/
def StopsAt (read : String → StateM σ (Except FileFault String)) (state : σ) (r : Registry)
    (paths : List String) (position : Nat) (e : FunctionFileError) : Prop :=
  ∃ before path after reached, paths = before ++ path :: after ∧ before.length = position ∧
    Yields state (r.addFiles read before) (.ok reached) ∧
    Yields state (reached.addFile read path) (.error e)

theorem StopsAt.head {e : FunctionFileError}
    (failed : Yields state (r.addFile read path) (.error e)) :
    StopsAt read state r (path :: paths) 0 e :=
  ⟨[], path, paths, r, rfl, rfl, rfl, failed⟩

theorem StopsAt.tail {e : FunctionFileError}
    (added : Yields state (r.addFile read path) (.ok extended))
    (later : StopsAt read state extended paths position e) :
    StopsAt read state r (path :: paths) (position + 1) e := by
  obtain ⟨before, failing, after, reached, rfl, rfl, taken, failed⟩ := later
  exact ⟨path :: before, failing, after, reached, rfl, rfl, added.bind taken, failed⟩

/-- From one registry on, the files are all added and no fault is found, or adding them ends at the
first fault that is found. -/
theorem addFiles_and_faultsOfFiles (steady : ReadsSteadily read state) (start : Nat) (r : Registry)
    (paths : List String) :
    ∃ faults outcome, Yields state (faultsOfFiles read start r paths) faults ∧
      Yields state (r.addFiles read paths) outcome ∧
      ((faults = [] ∧ ∃ extended, outcome = .ok extended) ∨
        ∃ position e rest, faults = (start + position, e) :: rest ∧ outcome = .error e ∧
          StopsAt read state r paths position e) := by
  induction paths generalizing start r with
  | nil => exact ⟨[], .ok r, rfl, rfl, .inl ⟨rfl, r, rfl⟩⟩
  | cons path paths ih =>
      obtain ⟨outcome, given⟩ := exists_addFile steady r path
      cases outcome with
      | ok extended =>
          obtain ⟨faults, outcome, found, ended, agree⟩ := ih (start + 1) extended
          refine ⟨faults, outcome, given.bind found, given.bind ended, agree.imp id ?_⟩
          rintro ⟨position, e, rest, rfl, failed, stops⟩
          exact ⟨position + 1, e, rest, by rw [Nat.add_assoc, Nat.add_comm 1], failed,
            stops.tail given⟩
      | error e =>
          -- Loading is over; of the verification, which goes on from `r`, only its end matters.
          obtain ⟨faults, _, found, _⟩ := ih (start + 1) r
          exact ⟨(start, e) :: faults, .error e, given.bind (found.bind rfl), given.bind rfl,
            .inr ⟨0, e, faults, rfl, rfl, .head given⟩⟩

end Registry

namespace Config

variable {c : Config} {path : String}

/-- Verification finds nothing wrong with the function files of a configuration exactly if the
registry of the configuration can be built.  Else the first file that it names is the one at which
building ends, and for the same reason. -/
theorem verify_finds_first_fault (steady : ReadsSteadily read state)
    (parsed : Yields state (ofFile read path) (.ok c)) :
    ∃ faults outcome, Yields state (verify read path) (.ok faults) ∧
      Yields state (c.buildRegistry read path []) outcome ∧
      (faults = [] ↔ ∃ r, outcome = .ok r) ∧
      ∀ position e rest, faults = (position, e) :: rest →
        outcome = .error e ∧
          Registry.StopsAt read state .defaults (c.filePaths path) position e := by
  obtain ⟨faults, outcome, found, ended, agree⟩ :=
    Registry.addFiles_and_faultsOfFiles steady 0 .defaults (c.filePaths path)
  have built : Yields state (c.buildRegistry read path []) outcome := by
    rwa [buildRegistry, List.append_nil]
  refine ⟨faults, outcome, parsed.bind (found.bind rfl), built, ?accepted, ?rejected⟩
  case accepted =>
    obtain ⟨none, loaded⟩ | ⟨position, e, rest, some, failed, _⟩ := agree
    · exact ⟨fun _ => loaded, fun _ => none⟩
    · simp [some, failed]
  case rejected =>
    rintro position e rest rfl
    obtain ⟨none, _⟩ | ⟨position, e, rest, some, failed, stops⟩ := agree
    · cases none
    · cases some
      exact ⟨failed, by rwa [Nat.zero_add]⟩

theorem verify_finds_first_fault_behind_registered_file :
    ∃ read : String → StateM Unit (Except FileFault String),
      Yields () (ofFile read "conf/flow.json")
          (.ok ⟨true, ["good.json", "refused.json", "none.json"]⟩) ∧
        Yields () (verify read "conf/flow.json")
          (.ok [(1, .registration "conf/refused.json" (.emptyCode "g")),
            (2, .file (.unreadable "conf/none.json" .missing))]) ∧
        Yields () (buildRegistry read ⟨true, ["good.json", "refused.json", "none.json"]⟩
            "conf/flow.json" [])
          (.error (.registration "conf/refused.json" (.emptyCode "g"))) ∧
        Registry.StopsAt read () .defaults
          ["conf/good.json", "conf/refused.json", "conf/none.json"] 1
          (.registration "conf/refused.json" (.emptyCode "g")) := by
  let files : List (String × String) :=
    [("conf/flow.json", "\x7bfunction_files: ['good.json', 'refused.json', 'none.json']\x7d"),
     ("conf/good.json", "\x7bgroup: 'g', functions: \x7bshout: \x7bfunction: 'upper'\x7d\x7d\x7d"),
     ("conf/refused.json", "\x7bgroup: 'g', functions: ['upper', ' ']\x7d")]
  let read (path : String) : StateM Unit (Except FileFault String) :=
    pure (((files.lookup path).map Except.ok).getD (.error .missing))
  have places : filePaths ⟨true, ["good.json", "refused.json", "none.json"]⟩ "conf/flow.json" =
      ["conf/good.json", "conf/refused.json", "conf/none.json"] := by decide +kernel
  have parsed : Yields () (ofFile read "conf/flow.json")
      (.ok ⟨true, ["good.json", "refused.json", "none.json"]⟩) :=
    .of_toOption (by decide +kernel)
  have verified : Yields () (verify read "conf/flow.json")
      (.ok [(1, .registration "conf/refused.json" (.emptyCode "g")),
        (2, .file (.unreadable "conf/none.json" .missing))]) := .of_toOption (by decide +kernel)
  obtain ⟨_, _, found, built, _, rejected⟩ :=
    verify_finds_first_fault (fun _ => ⟨_, rfl⟩ : ReadsSteadily read ()) parsed
  cases verified.unique found
  obtain ⟨ended, stops⟩ := rejected 1 _ _ rfl
  exact ⟨read, parsed, verified, ended ▸ built, places ▸ stops⟩

end Config

end FlowLogic
