import Delivery.Rehearsal.Timeline

/-!
# Schedules

How the tasks of a timeline take turns. The main task goes first; then every background task has a
turn, in the order in which they were started, also those that start meanwhile. A limit on the
length of a turn and on the number of rounds makes every schedule end.
-/

namespace Delivery.Rehearsal

variable {σ job value : Type}

abbrev Script (σ job value : Type) := job → Play σ job value (Ending job value)

namespace Script

def thread (script : Script σ job value) (j : job) : Thread σ job value :=
  .ready (script j) []

/-- Drops a task: what it entrusted to others runs in the background. -/
def drop (script : Script σ job value) (w : Timeline σ job value)
    (t : Thread σ job value) : Timeline σ job value :=
  t.bequests.foldl (fun w j => w.spawn (script.thread j)) w

mutual

/-- Gives a task its turn: it runs until it waits or ends. -/
def turn (script : Script σ job value) :
    (limit : Nat) → Timeline σ job value → Thread σ job value →
      Timeline σ job value × Thread σ job value
  | 0, w, t => (w, t)
  | limit + 1, w, .ready p jobs =>
    match p with
    | .done (.value v) => (w, .ended v)
    | .done (.next j) => turn script limit w (.ready (script j) jobs)
    | .ask q next =>
      match q with
      | .look => turn script limit w (.ready (next w.state) jobs)
      | .put s => turn script limit { w with state := s } (.ready (next ()) jobs)
      | .now => turn script limit w (.ready (next w.clock) jobs)
      | .turnClock d => turn script limit { w with clock := w.clock + d } (.ready (next ()) jobs)
      | .newToken =>
        turn script limit { w with tokens := w.tokens ++ [false] }
          (.ready (next w.tokens.length) jobs)
      | .cancel token =>
        turn script limit { w with tokens := w.tokens.set token true } (.ready (next ()) jobs)
      | .isCancelled token => turn script limit w (.ready (next (w.isCancelled token)) jobs)
      | .rest deadline token => turn script limit w (.resting (tickOf deadline) token next jobs)
      | .giveWay => (w, .givingWay (next ()) jobs)
      | .together js => turn script limit w (.gathering (js.map script.thread) next jobs)
      | .within deadline j =>
        turn script limit w (.timed (tickOf deadline) (script.thread j) next jobs)
      | .spawn j =>
        turn script limit (w.spawn (script.thread j)) (.ready (next w.tasks.length) jobs)
      | .entrust j => turn script limit w (.ready (next ()) (j :: jobs))
      | .relieve => turn script limit w (.ready (next ()) (jobs.drop 1))
      | .attempt j =>
        let (w, t) := turn script limit w (script.thread j)
        turn script limit w (.ready (next t.value?) jobs)
      | .isFinished task => turn script limit w (.ready (next (w.valueOf? task).isSome) jobs)
      | .join task => turn script limit w (.joining task next jobs)
  | limit + 1, w, .resting tick token next jobs =>
    if (token.map w.isCancelled).getD false then turn script limit w (.ready (next true) jobs)
    else if tick ≤ w.processed then turn script limit w (.ready (next false) jobs)
    else (w, .resting tick token next jobs)
  | limit + 1, w, .givingWay next jobs => turn script limit w (.ready next jobs)
  | limit + 1, w, .joining task next jobs =>
    match w.valueOf? task with
    | some v => turn script limit w (.ready (next v) jobs)
    | none => (w, .joining task next jobs)
  | limit + 1, w, .gathering children next jobs =>
    let (w, children) := turns script limit w children
    match children.mapM Thread.value? with
    | some values => turn script limit w (.ready (next values) jobs)
    | none => (w, .gathering children next jobs)
  | limit + 1, w, .timed tick child next jobs =>
    let (w, child) := turn script limit w child
    match child.value? with
    | some v => turn script limit w (.ready (next (some v)) jobs)
    | none =>
      if tick ≤ w.processed then turn script limit (script.drop w child) (.ready (next none) jobs)
      else (w, .timed tick child next jobs)
  | _ + 1, w, .ended v => (w, .ended v)

def turns (script : Script σ job value) :
    (limit : Nat) → Timeline σ job value → List (Thread σ job value) →
      Timeline σ job value × List (Thread σ job value)
  | 0, w, ts => (w, ts)
  | _ + 1, w, [] => (w, [])
  | limit + 1, w, t :: rest =>
    let (w, t) := turn script limit w t
    let (w, rest) := turns script limit w rest
    (w, t :: rest)

end

def background (script : Script σ job value) (limit : Nat) :
    (rounds : Nat) → (task : Nat) → Timeline σ job value → Timeline σ job value
  | 0, _, w => w
  | rounds + 1, task, w =>
    match w.tasks[task]? with
    | none => w
    | some t =>
      let (w, t) := turn script limit w t
      background script limit rounds (task + 1) { w with tasks := w.tasks.set task t }

/-- Runs a main task to its end. No value means that it waits for ever, or for too long. -/
def run (script : Script σ job value) (limit : Nat) :
    (rounds : Nat) → Timeline σ job value → Thread σ job value →
      Timeline σ job value × Option value
  | 0, w, _ => (w, none)
  | rounds + 1, w, main =>
    let (w, main) := turn script limit w main
    match main.value? with
    | some v => (w, some v)
    | none =>
      let w := background script limit limit 0 w
      let processed := w.clock / Duration.millisecond
      if w.anyCanRun processed (main :: w.tasks) then
        run script limit rounds { w with processed } main
      else
        match (Thread.allTicks (main :: w.tasks)).min? with
        | some tick =>
          let clock := w.clock + (tick - processed) * Duration.millisecond
          run script limit rounds { w with clock, processed := tick } main
        | none => (w, none)

end Script

end Delivery.Rehearsal
