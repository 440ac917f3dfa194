import FlowLogic.Sandbox.Interpreter

/-!
Sessions.  Each holds one checked program from its opening to its closing, under a number that no
other session of the sandbox ever has.
-/

namespace FlowLogic

structure Session where
  id : Nat
  program : Node

structure Sandbox where
  env : Environment
  /-- The number that the next session gets.  A counter of 64 bits counts alike in every history of
  fewer than `2 ^ 64` openings. -/
  nextId : Nat
  live : List Nat

namespace Sandbox

def start (env : Environment) : Sandbox := ⟨env, 1, []⟩

def openSession (s : Sandbox) (program : Node) : Sandbox × Except SandboxError Session :=
  match s.env.registry.check program with
  | .ok () =>
    ({ s with nextId := s.nextId + 1, live := s.nextId :: s.live }, .ok ⟨s.nextId, program⟩)
  | .error e => (s, .error e)

def run (s : Sandbox) (session : Session) (data : Bindings) : Except SandboxError Json :=
  s.env.run session.program data

def closeSession (s : Sandbox) (session : Session) : Sandbox :=
  { s with live := s.live.filter (· != session.id) }

def execute (s : Sandbox) (program : Node) (data : Bindings) : Sandbox × Except SandboxError Json :=
  match s.openSession program with
  | (opened, .ok session) => (opened.closeSession session, opened.run session data)
  | (same, .error e) => (same, .error e)

def check (s : Sandbox) (program : Node) : Sandbox × Except SandboxError Unit :=
  match s.openSession program with
  | (opened, .ok session) => (opened.closeSession session, .ok ())
  | (same, .error e) => (same, .error e)

end Sandbox

end FlowLogic
