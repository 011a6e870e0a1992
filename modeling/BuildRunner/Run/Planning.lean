import BuildRunner.Run.Planner

/-!
Plans made beside one another by one planner, in any order. Only one of them holds the answers of
the tool at a time: a plan whose question has no answer yet puts it to the tool, and holds them until
the tool has answered. A plan that needs no answer waits for none.
-/

namespace BuildRunner

/-- A plan that was asked for. -/
structure PlanCall where
  request : Request
  cwd : Path
  /-- The plan, once it is made. -/
  result : Option Invocation

/-- A question that is with the tool, and the plan that it is asked for. -/
structure Asking where
  number : Nat
  request : Request
  cwd : Path
  rule : ProbeRule

/-- A planner with the plans asked of it, each with its place in the list as its number. -/
structure Planning where
  planner : Planner
  calls : List PlanCall
  /-- The plan that holds the answers. -/
  asking : Option Asking

namespace Planning

/-- What can happen. -/
inductive Move where
  /-- One more plan is asked for. -/
  | call (request : Request) (cwd : Path)
  /-- A plan is gone on with. -/
  | proceed (number : Nat)
  /-- The tool answers the question that is with it. -/
  | answer (supported : Bool)

/-- What comes of it. -/
inductive Report where
  /-- A probe was started for a plan. -/
  | asked (number : Nat) (probe : Command)
  /-- A probe is over. -/
  | answered (probe : Command) (supported : Bool)
  /-- A plan is made. -/
  | made (number : Nat) (i : Invocation)

/-- No plan yet, and nothing asked. -/
def new (executable : String) (args : ArgLists) : Planning := ⟨.new executable args, [], none⟩

/-- A plan made. -/
def finish (s : Planning) (number : Nat) (call : PlanCall) (i : Invocation) : Planning :=
  { s with calls := s.calls.set number { call with result := some i } }

/-- A plan gone on with: it is made, or its question is put to the tool. -/
def consult (s : Planning) (number : Nat) (call : PlanCall) : Planning × List Report :=
  match s.planner.consult call.request call.cwd with
  | .settled i => (s.finish number call i, [.made number i])
  | .probing rule =>
    ({ s with asking := some ⟨number, call.request, call.cwd, rule⟩ },
      [.asked number (s.planner.probe rule call.cwd)])

/-- One thing that happens, and what comes of it. A plan that needs an answer is gone on with only
when no other one holds the answers. -/
def step (s : Planning) : Move → Planning × List Report
  | .call request cwd => ({ s with calls := s.calls ++ [⟨request, cwd, none⟩] }, [])
  | .proceed number =>
    match s.calls[number]? with
    | none => (s, [])
    | some call =>
      if call.result.isSome || (call.request.verb.probe.isSome && s.asking.isSome) then (s, [])
      else s.consult number call
  | .answer supported =>
    match s.asking with
    | none => (s, [])
    | some a =>
      let i := s.planner.under a.rule supported a.request a.cwd
      let s' := s.finish a.number ⟨a.request, a.cwd, none⟩ i
      ({ s' with planner := s.planner.learn (s.planner.question a.rule) supported, asking := none },
        [.answered (s.planner.probe a.rule a.cwd) supported, .made a.number i])

/-- Things that happen one after the other, and all that comes of them. -/
def run (s : Planning) : List Move → Planning × List Report
  | [] => (s, [])
  | m :: ms =>
    let t := s.step m
    let u := run t.1 ms
    (u.1, t.2 ++ u.2)

end Planning

end BuildRunner
