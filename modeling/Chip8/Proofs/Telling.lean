import Chip8.Console.Command
import Chip8.Proofs.FailedSteps
import Chip8.Proofs.Log.Selection

namespace Chip8

open Log

/-- What an instruction has to tell, by the machine that it finds. -/
def Machine.remarks (m : Machine) : Instruction → List Event
  | .clearDisplay => [.displayCleared]
  | .draw x y n =>
    match m.fault? (.draw x y n) with
    | some _ => []
    | none =>
      let sprite := m.memory.bytes m.i.toNat (spriteHeight n)
      [.spriteDrawn (spriteHeight n) (m.value x) (m.value y) m.i
        (m.display.draw (m.value x) (m.value y) sprite).2]
  | .waitKey x =>
    match m.keypad.lowest? with
    | some key => [.keyTaken key x]
    | none => []
  | .unrecognized word => [.unrecognized word m.pc]
  | _ => []

/-- Work on a machine in the hearing of somebody. -/
abbrev Telling (σ α : Type) := EStateM Stop (Machine × σ) α

namespace Telling

variable {σ α : Type}

/-- A result, together with what the listener knows by then. -/
def heard (s : σ) : EStateM.Result Stop Machine α → EStateM.Result Stop (Machine × σ) α
  | .ok a m => .ok a (m, s)
  | .error e m => .error e (m, s)

@[simp]
theorem heard_ok (s : σ) (a : α) (m : Machine) : heard s (.ok a m) = .ok a (m, s) := rfl

@[simp]
theorem heard_error (s : σ) (e : Stop) (m : Machine) :
    heard s (.error e m : EStateM.Result Stop Machine α) = .error e (m, s) := rfl

def silently (w : Work α) : Telling σ α := fun (m, s) => heard s (w.run m)

@[simp]
theorem run_silently (w : Work α) (m : Machine) (s : σ) : (silently w).run (m, s) = heard s (w.run m) := rfl

variable (hear : σ → Event → σ)

/-- Says what the machine has to tell at this place. -/
def say (event : Machine → Event) : Telling σ Unit := modify fun (m, s) => (m, hear s (event m))

@[simp]
theorem run_say (event : Machine → Event) (m : Machine) (s : σ) :
    (say hear event).run (m, s) = .ok () (m, hear s (event m)) := rfl

def clearDisplay : Telling σ Unit := do
  silently (modify fun m => { m with display := m.display.clear })
  say hear fun _ => .displayCleared
  silently Work.advance

/-- `Dxyn`: the coordinates are those from before the drawing, the index register is read when the line is made. -/
def draw (x y n : UInt8) : Telling σ Unit := do
  let m ← silently get
  let sprite ← silently (Work.checked (m.memory.read m.i.toNat (spriteHeight n)))
  let column ← silently (Work.reg x)
  let row ← silently (Work.reg y)
  let (display, collision) := m.display.draw column row sprite
  silently (modify fun m => { m with display := display })
  silently (Work.setReg Machine.flag (if collision then 1 else 0))
  say hear fun m => .spriteDrawn (spriteHeight n) column row m.i collision
  silently Work.advance

def waitKey (x : UInt8) : Telling σ Unit := do
  match (← silently get).keypad.lowest? with
  | some key =>
    say hear fun _ => .keyTaken key x
    silently (Work.setAndAdvance x key)
  | none => pure ()

def execute (byte : UInt8) : Instruction → Telling σ Unit
  | .clearDisplay => clearDisplay hear
  | .draw x y n => draw hear x y n
  | .waitKey x => waitKey hear x
  | .unrecognized word => do
    say hear fun m => .unrecognized word m.pc
    silently Work.advance
  | i => silently (Work.execute byte i)

variable {m : Machine} {x y : UInt8}

theorem run_draw (hx : x.toNat < 16) (hy : y.toNat < 16) (n : UInt8) (s : σ) :
    (draw hear x y n).run (m, s) =
      match m.outside? (spriteHeight n) with
      | some f => .error (.fault f) (m, s)
      | none => .ok () (m.drawn x y (m.memory.bytes m.i.toNat (spriteHeight n)),
          (m.remarks (.draw x y n)).foldl hear s) := by
  simp only [draw, EStateM.run_bind, run_silently, EStateM.run_get, heard_ok, Work.run_read]
  cases hf : m.outside? (spriteHeight n) with
  | some f => rfl
  | none =>
    simp [Work.run_reg hx, Work.run_reg hy, Work.run_setReg Work.flag_lt, Machine.drawn, Machine.loaded,
      Machine.remarks, Machine.fault?, hf, Machine.withValue]

theorem run_waitKey (byte x : UInt8) (s : σ) :
    (waitKey hear x).run (m, s) =
      heard ((m.remarks (.waitKey x)).foldl hear s) ((Work.execute byte (.waitKey x)).run m) := by
  simp only [waitKey, Work.execute, Work.waitKey, Machine.remarks, EStateM.run_bind, EStateM.run_get,
    run_silently, heard_ok]
  cases m.keypad.lowest? with
  | some key => rfl
  | none => rfl

/-- An instruction that tells does what it does silently, and says what it has to tell once. -/
theorem run_execute (byte : UInt8) {i : Instruction} (hi : i.Fits) (m : Machine) (s : σ) :
    (execute hear byte i).run (m, s) =
      heard ((m.remarks i).foldl hear s) ((Work.execute byte i).run m) := by
  cases i with
  | draw x y n =>
    have htold := run_draw hear (m := m) hi.1 hi.2.1 n s
    have hplain : (Work.execute byte (.draw x y n)).run m = _ := Work.run_draw hi.1 hi.2.1 n
    rw [hplain]
    refine htold.trans ?_
    cases hf : m.outside? (spriteHeight n) with
    | some f => simp only [Machine.remarks, Machine.fault?, hf, List.foldl_nil, heard_error]
    | none => rfl
  | waitKey x => exact run_waitKey hear byte x s
  | _ => rfl

end Telling

theorem Machine.flag_drawn (m : Machine) (x y : UInt8) (sprite : List UInt8) :
    ((m.drawn x y sprite).v[15] == 1) = (m.display.draw (m.value x) (m.value y) sprite).2 := by
  have hflag : (m.drawn x y sprite).v[15] =
      if (m.display.draw (m.value x) (m.value y) sprite).2 then 1 else 0 :=
    Vector.getElem_setIfInBounds_self ..
  rw [hflag]
  cases (m.display.draw (m.value x) (m.value y) sprite).2 with
  | true => rfl
  | false => rfl

namespace Processor

theorem execute_draw (p : Processor) {x y : UInt8} (hx : x.toNat < 16) (hy : y.toNat < 16) (n : UInt8) :
    p.execute (.draw x y n) =
      match p.machine.outside? (spriteHeight n) with
      | some f => (p, .error (.fault f))
      | none =>
        let sprite := p.machine.memory.bytes p.machine.i.toNat (spriteHeight n)
        ({ p with machine := p.machine.drawn x y sprite }, .ok ()) := by
  have hrun : (Work.execute 0 (.draw x y n)).run p.machine = _ := Work.run_draw hx hy n
  simp only [execute, Instruction.draws, Bool.false_eq_true, if_false, hrun]
  cases p.machine.outside? (spriteHeight n) with
  | some f => rfl
  | none => rfl

/-- What is read off the states of an instruction is what is said on its way. -/
theorem executionEvents_eq (p : Processor) {i : Instruction} (hi : i.Fits) :
    p.executionEvents i = p.machine.remarks i := by
  have hread : p.executionEvents i =
      p.machine.executionEvents i (p.execute i).1.machine (p.execute i).2 := rfl
  cases i with
  | draw x y n =>
    have hx : x.toNat < registerCount := hi.1
    have hy : y.toNat < registerCount := hi.2.1
    rw [hread, p.execute_draw hi.1 hi.2.1 n]
    cases hf : p.machine.outside? (spriteHeight n) with
    | some f => simp only [Machine.executionEvents, Machine.remarks, Machine.fault?, hf]
    | none =>
      have hcolumn : p.machine.v[x.toNat]? = some (p.machine.value x) := by simp [Machine.value, hx]
      have hrow : p.machine.v[y.toNat]? = some (p.machine.value y) := by simp [Machine.value, hy]
      simp only [Machine.executionEvents, Machine.remarks, Machine.fault?, hf, hcolumn, hrow, Machine.flag_drawn]
  | _ => rfl

variable {σ : Type} (hear : σ → Event → σ)

/-- `Processor.step` with all that it has to tell. -/
def tellingStep (p : Processor) (s : σ) : (Processor × Except Failure Instruction) × σ :=
  match p.fetch with
  | .error e => ((p, .error e), hear s (.fetchFailed p.machine.pc))
  | .ok word =>
    let i := Instruction.decode word
    let s := hear s (.fetched p.machine.pc word)
    let byte := if i.draws then p.random.offer else 0
    let random := if i.draws then p.random.advance else p.random
    match (Telling.execute hear byte i).run (p.machine, s) with
    | .error (.fault f) (machine, s) =>
      (({ p with machine, random }, .error (.fault p.machine.pc word f)), hear s (.faulted p.machine.pc word f))
    | .error (.crash c) (_, s) => ((p, .error (.crash c)), s)
    | .ok () (machine, s) =>
      match count { p with machine, random } with
      | .ok q => ((q, .ok i), s)
      | .error e => ((p, .error e), s)

/-- What a step has to tell, by what it fetches, what it executes and how it fails. -/
def report (p : Processor) : List Event :=
  (match p.fetch with
    | .ok word => .fetched p.machine.pc word :: p.machine.remarks (.decode word)
    | .error _ => []) ++
  match p.step.2 with
  | .error (.fetchOutOfBounds pc) => [.fetchFailed pc]
  | .error (.fault pc word f) => [.faulted pc word f]
  | _ => []

theorem count_eq_error {p : Processor} {e : Failure} (h : p.count = .error e) : e = .crash .counterFull := by
  unfold count at h
  split at h
  · cases h
  · cases h
    rfl

theorem events_eq_report (p : Processor) : p.events = p.report := by
  unfold events report step
  cases hf : p.fetch with
  | error e =>
    have he : e = .fetchOutOfBounds p.machine.pc := by
      unfold fetch at hf
      split at hf <;> cases hf
      rfl
    rw [he]
    rfl
  | ok word =>
    dsimp only
    rw [p.executionEvents_eq (Instruction.decode_fits word)]
    cases p.execute (.decode word) with
    | mk q result =>
      cases result with
      | error stop => cases stop <;> rfl
      | ok _ =>
        cases hc : q.count with
        | error e =>
          cases count_eq_error hc
          simp only [hc]
        | ok q' => simp only [hc]

/-- A step that tells ends as the silent one does, and what is heard on the way are its events. -/
theorem tellingStep_eq (p : Processor) (s : σ) : p.tellingStep hear s = (p.step, p.events.foldl hear s) := by
  unfold tellingStep events step
  cases p.fetch with
  | error e => rfl
  | ok word =>
    have hfits := Instruction.decode_fits word
    dsimp only
    rw [Telling.run_execute hear _ hfits, p.executionEvents_eq hfits]
    unfold execute
    dsimp only
    cases (Work.execute _ (.decode word)).run p.machine with
    | error stop m =>
      cases stop with
      | fault f => simp only [Telling.heard_error, List.foldl_append, List.foldl_cons, List.foldl_nil]
      | crash c => simp only [Telling.heard_error, List.append_nil, List.foldl_cons]
    | ok _ m =>
      let random := if (Instruction.decode word).draws then p.random.advance else p.random
      simp only [Telling.heard_ok, List.append_nil, List.foldl_cons]
      cases count { p with machine := m, random := random } with
      | error e => rfl
      | ok q => rfl

/-- Calls of `step` one after the other, whether they succeed or fail; a crash is the end. -/
def calls : Nat → Processor → Processor × List (Except Failure Instruction)
  | 0, p => (p, [])
  | n + 1, p =>
    match p.step with
    | (q, .error (.crash k)) => (q, [.error (.crash k)])
    | (q, result) => ((calls n q).1, result :: (calls n q).2)

/-- What calls of `step` have to tell, read off the states. -/
def callEvents : Nat → Processor → List Event
  | 0, _ => []
  | n + 1, p =>
    p.events ++
      match p.step with
      | (_, .error (.crash _)) => []
      | (q, _) => callEvents n q

/-- Calls of `step` that tell in the middle of their work, to a listener with a state. -/
def tellingCalls : Nat → Processor → σ → (Processor × List (Except Failure Instruction)) × σ
  | 0, p, s => ((p, []), s)
  | n + 1, p, s =>
    match p.tellingStep hear s with
    | ((q, .error (.crash k)), s) => ((q, [.error (.crash k)]), s)
    | ((q, result), s) =>
      let rest := tellingCalls n q s
      ((rest.1.1, result :: rest.1.2), rest.2)

theorem tellingCalls_eq (n : Nat) (p : Processor) (s : σ) :
    p.tellingCalls hear n s = (p.calls n, (p.callEvents n).foldl hear s) := by
  induction n generalizing p s with
  | zero => rfl
  | succ n ih =>
    unfold tellingCalls calls callEvents
    rw [tellingStep_eq, List.foldl_append]
    cases p.step with
    | mk q result =>
      cases result with
      | ok i =>
        dsimp only
        rw [ih]
      | error e =>
        cases e with
        | crash k => rfl
        | _ =>
          dsimp only
          rw [ih]

/-- Calls of `step` give the same results and leave the same processor whoever listens, and what is heard are
their events in order: the instruction that is fetched, what it has to tell, and one line for a failure, each with
its category, its level and its text. A logger whose levels are all off stays as it is. Where no category reaches
the limit, a logger writes exactly the events that it wants, be it in one second or at the readings of any clock. -/
theorem logging_is_faithful (p : Processor) (n : Nat) :
    let events := p.callEvents n
    let line (e : Event) : Category × Level × String := (e.category, e.level, e.text)
    let hex (width n : Nat) : String := .ofList (((Nat.toDigits 16 n).map Char.toUpper).leftpad width '0')
    ((∀ pc word, line (.fetched pc word) = (.cpu, .trace,
        "CHIP-8: " ++ (hex 3 pc.toNat ++ "  " ++ hex 4 word.toNat ++ "  " ++ (Instruction.decode word).mnemonic))) ∧
      line .displayCleared = (.display, .debug, "CHIP-8: display cleared") ∧
      (∀ height x y i collision, line (.spriteDrawn height x y i collision) = (.display, .trace,
        "CHIP-8: " ++ ("sprite " ++ Nat.repr height ++ "x8 at (" ++ Nat.repr x.toNat ++ ", " ++ Nat.repr y.toNat ++
          ") from I=" ++ hex 3 i.toNat ++ ", collision=" ++ (if collision then "true" else "false")))) ∧
      (∀ key x, line (.keyTaken key x) = (.input, .debug,
        "CHIP-8: " ++ ("key " ++ hex 1 key.toNat ++ " satisfied wait into V" ++ hex 1 x.toNat))) ∧
      (∀ word pc, line (.unrecognized word pc) = (.stubs, .warn,
        "CHIP-8: " ++ ("unrecognized opcode " ++ hex 4 word.toNat ++ " at PC=" ++ hex 3 pc.toNat ++ ", skipping"))) ∧
      (∀ pc, line (.fetchFailed pc) = (.cpu, .error,
        "CHIP-8: " ++ ("fetch out of bounds at PC=" ++ ("0x" ++ hex 4 pc.toNat)))) ∧
      (∀ pc word f, line (.faulted pc word f) = (.cpu, .error,
        "CHIP-8: " ++ (f.message ++ " executing " ++ hex 4 word.toNat ++ " at PC=" ++ hex 3 pc.toNat))) ∧
      (∀ depth, Fault.message (.stackOverflow depth) = "call stack overflow (depth " ++ Nat.repr depth ++ ")") ∧
      Fault.message .stackUnderflow = "return with empty call stack" ∧
      ∀ addr, Fault.message (.memoryOutOfBounds addr) = "memory access out of bounds at " ++ ("0x" ++ hex 4 addr)) ∧
      (∀ q : Processor, q.events = q.report) ∧
      (∀ (σ : Type) (hear : σ → Event → σ) (s : σ),
        p.tellingCalls hear n s = (p.calls n, events.foldl hear s)) ∧
      (∀ log : Logger,
        p.tellingCalls Logger.listen n log = (p.calls n, log.hear fun _ => events) ∧
          (log.filter = .silent → (log.hear fun _ => events) = log) ∧
          (log.HasRoom events →
            (log.hear fun _ => events).lines = log.lines ++ (log.filter.select events).map Event.text)) ∧
      ∀ (clock : Nat → Nat) (k : Clocked),
        let told := p.tellingCalls (Clocked.listen clock) n (k, 0)
        told.1 = p.calls n ∧
          (Clocked.NeverFull clock (k, 0) events →
            told.2.1.lines = k.lines ++ (k.filter.select events).map Event.text) := by
  intro events line hex
  refine ⟨⟨fun _ _ => rfl, rfl, fun _ _ _ _ _ => rfl, fun _ _ => rfl, fun _ _ => rfl, fun _ => rfl,
      fun _ _ _ => rfl, fun _ => rfl, rfl, fun _ => rfl⟩,
    events_eq_report, fun σ hear s => tellingCalls_eq hear n p s, fun log => ?_, fun clock k => ?_⟩
  · have hheard := Logger.hear_eq_foldl log events
    refine ⟨?_, fun hsilent => ?_, fun hroom => ?_⟩
    · rw [tellingCalls_eq, hheard]
    · rw [hheard]
      exact Logger.tell_silent hsilent events
    · rw [hheard]
      exact Logger.lines_tell hroom
  · have htold := tellingCalls_eq (Clocked.listen clock) n p (k, 0)
    intro told
    refine ⟨congrArg Prod.fst htold, fun hfree => ?_⟩
    have hlines := Clocked.lines_listen 0 hfree
    unfold told
    rw [htold]
    exact hlines

/-- A processor with key 3 held down that clears the display, draws, takes the key, passes over a word outside the
instruction set and returns from nowhere. -/
def chattering : Processor :=
  { powerOn (.ofSeed 0) with
    machine := { Machine.powerOn with
      memory := Machine.powerOn.memory.put 0x200 [0x00, 0xE0, 0xD0, 0x05, 0xF3, 0x0A, 0x5A, 0xB1, 0x00, 0xEE]
      keypad := ⟨0x0008⟩ } }

def chatter : List Event :=
  [.fetched 0x200 0x00E0, .displayCleared, .fetched 0x202 0xD005, .spriteDrawn 5 0 0 0 false,
    .fetched 0x204 0xF30A, .keyTaken 3 3, .fetched 0x206 0x5AB1, .unrecognized 0x5AB1 0x206,
    .fetched 0x208 0x00EE, .faulted 0x208 0x00EE .stackUnderflow,
    .fetched 0x208 0x00EE, .faulted 0x208 0x00EE .stackUnderflow]

/-- Of the processor errors are wanted, of the rest all but the drawing. -/
def selective : Filter := ⟨.debug, { PerCategory.const .off with cpu := .error }⟩

theorem chattering_logging_is_faithful :
    let log : Logger := { Logger.fresh with filter := selective }
    let all : Logger := { Logger.fresh with filter := ⟨.trace, .const .off⟩ }
    let k : Clocked := { Clocked.fresh with filter := selective, limit := 1 }
    let clock (reading : Nat) : Nat := 2 * second * reading
    let lines := ["CHIP-8: display cleared", "CHIP-8: key 3 satisfied wait into V3",
      "CHIP-8: unrecognized opcode 5AB1 at PC=206, skipping",
      "CHIP-8: return with empty call stack executing 00EE at PC=208",
      "CHIP-8: return with empty call stack executing 00EE at PC=208"]
    chattering.callEvents 6 = chatter ∧
      chattering.tellingCalls Logger.listen 6 log = (chattering.calls 6, log.hear fun _ => chatter) ∧
      (log.hear fun _ => chatter).lines = lines ∧
      (chattering.tellingCalls (Clocked.listen clock) 6 (k, 0)).2.1.lines = lines ∧
      (all.hear fun _ => chatter).lines =
        ["CHIP-8: 200  00E0  CLS", "CHIP-8: display cleared", "CHIP-8: 202  D005  DRW V0, V0, 5",
          "CHIP-8: sprite 5x8 at (0, 0) from I=000, collision=false", "CHIP-8: 204  F30A  LD V3, K",
          "CHIP-8: key 3 satisfied wait into V3", "CHIP-8: 206  5AB1  ??? 5AB1",
          "CHIP-8: unrecognized opcode 5AB1 at PC=206, skipping", "CHIP-8: 208  00EE  RET",
          "CHIP-8: return with empty call stack executing 00EE at PC=208", "CHIP-8: 208  00EE  RET",
          "CHIP-8: return with empty call stack executing 00EE at PC=208"] := by
  intro log all k clock lines
  have hevents : chattering.callEvents 6 = chatter := by decide +kernel
  have hselect : (selective.select chatter).map Event.text = lines := rfl
  have hroom : log.HasRoom chatter := by decide +kernel
  have hroom' : all.HasRoom chatter := by decide +kernel
  have hfree : Clocked.NeverFull clock (k, 0) chatter := by decide +kernel
  obtain ⟨-, -, -, hlog, hclocked⟩ := logging_is_faithful chattering 6
  rw [hevents] at hlog hclocked
  obtain ⟨htold, -, hlines⟩ := hlog log
  obtain ⟨-, -, hall⟩ := hlog all
  obtain ⟨-, hlines'⟩ := hclocked clock k
  have hwritten := hlines hroom
  have hwritten' := hlines' hfree
  change _ = [] ++ (selective.select chatter).map Event.text at hwritten hwritten'
  rw [hselect] at hwritten hwritten'
  exact ⟨hevents, htold, hwritten, hwritten', hall hroom'⟩

end Processor

/-- A step of a console that reports to a logger tells in the middle of its work what it has to tell. -/
theorem Console.performTelling_step {c : Console} (hm : c.program.isSome) (log : Logger) :
    let told := c.processor.tellingStep Logger.listen log
    c.performTelling log .step = ({ c with processor := told.1.1 }, told.2, .ofStep told.1.2) := by
  intro told
  obtain ⟨program, hp⟩ := Option.isSome_iff_exists.mp hm
  have hevents : c.events .step = c.processor.events := by simp only [events, stepEvents, hp]
  have htold : told = (c.processor.step, c.processor.events.foldl Logger.listen log) :=
    Processor.tellingStep_eq Logger.listen c.processor log
  rw [htold, ← Logger.hear_eq_foldl, performTelling, hevents, perform, answering, step_of_mounted hm]

end Chip8
