import PoolCheck.Script.Evaluation

/-!
# Processes beside each other

The processes of a script take turns in the order of time. Each goes on until the next one has
something to do, or until it has to wait.
-/

set_option autoImplicit false

namespace PoolCheck.Script

/-- A process that is not at its turn: its shells, where it is, what it waits for, since when, and
how it goes on. -/
structure Suspended where
  process : Nat
  isMain : Bool
  shell : Shell
  waiting : List Shell
  directory : Path
  share : Nat
  wait : Wait
  since : Nat
  next : Session → Progress Finish

open Run

namespace Suspended

def shells (p : Suspended) : List Shell := p.shell :: p.waiting

def ofJob (j : Job) : Suspended :=
  ⟨j.process, false, j.shell, [], j.directory, j.share, .time j.start, j.start, j.run runTask⟩

def reads (outlet : Nat) (p : Suspended) : Bool :=
  match p.wait with
  | .line i | .some i | .all i => i = outlet
  | _ => false

def overAt? (s : Session) (others : List Suspended) (p : Suspended) : Option Nat :=
  let shells := others.flatMap Suspended.shells
  let since (time : Nat) : Option Nat := some (max p.since time)
  let input (outlet : Nat) (isEnough : ByteArray → Bool) : Option Nat :=
    match s.opened[outlet]? with
    | some f =>
      if ((unread? s.files f).map isEnough).getD true then since f.changed
      else if s.feeds outlet shells then none
      else since s.now
    | none => since s.now
  match p.wait with
  | .time t => some t
  | .finish process _ => (s.ended.lookup process).bind fun (time, _) => since time
  | .line outlet => input outlet hasLine
  | .some outlet => input outlet fun rest => rest.size ≠ 0
  | .all outlet => input outlet fun _ => false
  | .room outlet =>
    match s.opened[outlet]? with
    | some f =>
      if f.unread < pipeSize then since f.changed
      else if others.any (reads outlet) || !shells.any (fun sh => sh.uses outlet) then since s.now
      else none
    | none => since s.now

def signalledAt? (s : Session) (p : Suspended) (isStopped : Bool) : Option Nat :=
  let heeds := match p.wait with
    | .finish _ heeds => heeds
    | _ => false
  let ends (m : Message) : Bool := p.shells.any fun sh => sh.process = m.process &&
    match Signal.reaction sh.traps m.signal with
    | .fatal => !isStopped || Signal.isStrict m.signal
    | .caught => heeds && !isStopped
    | .ignored | .stopped => false
  ((s.signals.filter ends).map fun m => max p.since m.arrival).min?

/-- Until when a process is stopped, if a signal has done so: a time, or for ever. -/
def stoppedUntil? (s : Session) (p : Suspended) : Option (Option Nat) :=
  let mine := s.signals.filter fun m => m.process = p.shell.process &&
    (m.signal = Signal.ofGoingOn || Signal.reaction p.shell.traps m.signal = .stopped)
  match mine.getLast? with
  | none => none
  | some m => if m.signal = Signal.ofGoingOn then some (some m.arrival) else some none

def turnAt? (s : Session) (others : List Suspended) (p : Suspended) : Option Nat :=
  match p.stoppedUntil? s with
  | some none => p.signalledAt? s true
  | stop =>
    let earliest := (stop.join).getD 0
    let turns := [overAt? s others p, p.signalledAt? s false].filterMap id
    turns.min?.map (max earliest)

end Suspended

structure Schedule where
  session : Session
  processes : List Suspended
  result : Option (Except Halt Finish)

namespace Schedule

def eachWithOthers : List Suspended → List Suspended → List (Suspended × List Suspended)
  | _, [] => []
  | before, p :: rest => (p, before ++ rest) :: eachWithOthers (before ++ [p]) rest

def turns (x : Schedule) : List (Nat × Suspended × List Suspended) :=
  (eachWithOthers [] x.processes).filterMap fun (p, others) =>
    (p.turnAt? x.session others).map fun t => (t, p, others)

def first (limit : Nat) :
    List (Nat × Suspended × List Suspended) → Option ((Nat × Suspended × List Suspended) × Nat)
  | [] => none
  | turn :: rest =>
    match first limit rest with
    | none => some (turn, limit)
    | some (best, next) =>
      if turn.1 ≤ best.1 then some (turn, best.1) else some (best, min next turn.1)

def resume (s : Session) (time horizon : Nat) (p : Suspended) (others : List Suspended) :
    Schedule :=
  let entered : Session := { s with
    shell := p.shell
    waiting := p.waiting
    files := { s.files with current := p.directory }
    now := time
    horizon := horizon
    started := []
    living := others.flatMap Suspended.shells
    share := p.share }
  let finished (f : Finish) (s : Session) : Session :=
    let time := match f with
      | .exited _ => s.now + ending
      | .killed _ => s.now + dying
    { s with ended := (p.process, time, f) :: s.ended }
  match p.next entered with
  | .ended r s =>
    let s := match r with
      | .ok f => finished f s
      | .error (.killed _ n) => finished (.killed n) s
      | .error _ => s
    ⟨s, others ++ s.started.map Suspended.ofJob, if p.isMain then some r else none⟩
  | .waiting w s next =>
    let p : Suspended := { p with
      shell := s.shell
      waiting := s.waiting
      directory := s.files.current
      share := s.share
      wait := w
      since := s.now
      next := next }
    ⟨s, others ++ p :: s.started.map Suspended.ofJob, none⟩

/-- Lets the processes take turns before a time, until the main one has ended. -/
def upTo (limit : Nat) : Nat → Schedule → Schedule
  | 0, x => x
  | n + 1, x =>
    if x.result.isSome then x
    else
      match first limit (turns x) with
      | none => x
      | some ((time, p, others), horizon) =>
        if limit ≤ time then x
        else upTo limit n (resume x.session time (min limit horizon) p others)

def opening (s : Session) (act : Run Finish) : Schedule :=
  let main : Suspended :=
    ⟨0, true, s.shell, [], s.files.current, s.patience, .time 0, 0, act⟩
  ⟨s, [main], none⟩

end Schedule

end PoolCheck.Script
