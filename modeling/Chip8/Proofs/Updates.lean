import Chip8.Proofs.Saves.RoundTrip
import Mathlib.Data.List.Induction

namespace Chip8

namespace Display

/-- What became of a display: it is as it was, or its flag is up. -/
def Announced (before after : Display) : Prop := after = before ∨ after.dirty = true

variable {d e f : Display}

theorem Announced.refl (d : Display) : Announced d d := .inl rfl

theorem Announced.trans (hde : Announced d e) (hef : Announced e f) : Announced d f := by
  rcases hef with rfl | h
  · exact hde
  · exact .inr h

theorem announced_foldl_hit (acc : Display × Bool) (places : List Place) :
    Announced acc.1 (places.foldl hit acc).1 := by
  induction places generalizing acc with
  | nil => exact .refl _
  | cons p places ih =>
    have hflip : Announced acc.1 (hit acc p).1 := .inr rfl
    exact hflip.trans (ih (hit acc p))

theorem announced_draw (d : Display) (x y : UInt8) (sprite : List UInt8) :
    Announced d (d.draw x y sprite).1 := announced_foldl_hit (d, false) _

theorem head?_text (d : Display) :
    d.text.toList.head? = some (if d.lit (place 0 0) then '#' else '.') := by
  rw [text, String.toList_ofList]
  rfl

theorem text_takeDirty (d : Display) : d.takeDirty.2.text = d.text := rfl

end Display

theorem Machine.announced_after (m : Machine) (byte : UInt8) (i : Instruction) :
    m.display.Announced (m.after byte i).display := by
  cases i with
  | clearDisplay => exact .inr rfl
  | draw x y n => exact Display.announced_draw m.display _ _ _
  | waitKey x =>
    simp only [after]
    split <;> exact .refl _
  | _ => exact .refl _

namespace Processor

variable {p : Processor}

theorem announced_step (hp : p.machine.Valid) :
    p.machine.display.Announced p.step.1.machine.display := by
  rcases machine_step_cases hp with h | ⟨word, byte, -, -, h⟩
  · rw [h]
    exact .refl _
  · rw [h]
    exact p.machine.announced_after byte _

theorem announced_run (n : Nat) (hp : p.machine.Valid) :
    p.machine.display.Announced (p.run n).1.machine.display := by
  let Kept (q : Processor) : Prop := q.machine.Valid ∧ p.machine.display.Announced q.machine.display
  have hstep (q : Processor) (hq : Kept q) : Kept q.step.1 :=
    ⟨valid_step hq.1, hq.2.trans (announced_step hq.1)⟩
  have hrun : Kept (p.run n).1 := run_keeps hstep n ⟨hp, .refl _⟩
  exact hrun.2

end Processor

namespace Answer

/-- The text that an answer makes a renderer redraw, if it does. -/
def redrawn? : Answer → Option String
  | .update text => text
  | _ => none

theorem redrawn?_ofUnit (r : Except Failure Unit) : (ofUnit r).redrawn? = none := by cases r <;> rfl

theorem redrawn?_ofStep (r : Except Failure Instruction) : (ofStep r).redrawn? = none := by
  cases r <;> rfl

theorem redrawn?_ofFrame (r : Except Failure Frame) : (ofFrame r).redrawn? = none := by cases r <;> rfl

end Answer

/-- What is on the screen of a renderer who redraws at every update. -/
def lastUpdate (answers : List Answer) : Option String := (answers.filterMap Answer.redrawn?).getLast?

theorem lastUpdate_concat (answers : List Answer) (a : Answer) :
    lastUpdate (answers ++ [a]) = a.redrawn?.or (lastUpdate answers) := by
  cases h : a.redrawn? with
  | none => simp [lastUpdate, h]
  | some text => simp [lastUpdate, h]

namespace Console

/-- The next look at the display brings an update, or `shown` is its text. -/
def Current (c : Console) (shown : Option String) : Prop :=
  c.machine.display.dirty = true ∨ shown = some c.machine.display.text

variable {c : Console} {shown : Option String}

theorem current_iff : c.Current shown ↔ (c.takeUpdate.2 = none → shown = some c.machine.display.text) := by
  unfold Current takeUpdate Display.takeDirty
  cases c.machine.display.dirty <;> simp

theorem Current.of_announced {d : Console} (h : c.Current shown)
    (hd : c.machine.display.Announced d.machine.display) : d.Current shown := by
  rcases hd with hd | hd
  · unfold Current
    rw [hd]
    exact h
  · exact .inl hd

theorem takeUpdate_of_dirty (h : c.machine.display.dirty = true) :
    c.takeUpdate.2 = some c.machine.display.text := by
  unfold takeUpdate Display.takeDirty
  rw [h]
  rfl

theorem takeUpdate_of_clean (h : c.machine.display.dirty = false) : c.takeUpdate.2 = none := by
  unfold takeUpdate Display.takeDirty
  rw [h]
  rfl

theorem takeUpdate_current (h : c.Current shown) :
    c.takeUpdate.1.Current (c.takeUpdate.2.or shown) := by
  have htext : c.takeUpdate.1.machine.display.text = c.machine.display.text :=
    Display.text_takeDirty c.machine.display
  refine .inr ?_
  rw [htext]
  cases hd : c.machine.display.dirty with
  | true => rw [takeUpdate_of_dirty hd, Option.some_or]
  | false =>
    rw [takeUpdate_of_clean hd, Option.none_or]
    exact h.resolve_left (Bool.eq_false_iff.mp hd)

theorem announced_reload {d : Console} (h : c.reload = .ok d) : d.machine.display = c.machine.display := by
  unfold reload at h
  split at h
  next program _ =>
    obtain ⟨m, hm, hd⟩ := Outcome.bind_eq_ok_iff.mp h
    cases hd
    change m.display = _
    rw [Machine.load_eq_ok hm]
  next =>
    cases h
    rfl

theorem dirty_reset (c : Console) : c.reset.machine.display.dirty = true := by
  unfold reset
  split
  next h =>
    rw [announced_reload h]
    rfl
  next => rfl

theorem announced_mount (id : String) (program : List UInt8) :
    c.machine.display.Announced (c.mount id program).1.machine.display := by
  unfold mount
  split
  · exact .refl _
  · split
    · exact .refl _
    · dsimp only
      split
      next h =>
        refine .inr ?_
        rw [announced_reload h]
        rfl
      next => exact .inr rfl

theorem announced_unmount (id : String) :
    c.machine.display.Announced (c.unmount id).1.machine.display := by
  unfold unmount
  split <;> exact .refl _

theorem announced_step (hc : c.machine.Valid) : c.machine.display.Announced c.step.1.machine.display := by
  unfold step
  split
  · exact .refl _
  · exact Processor.announced_step hc

theorem announced_stepFrame (hc : c.machine.Valid) :
    c.machine.display.Announced c.stepFrame.1.machine.display := by
  have hr := Processor.announced_run c.settings.instructionsPerFrame.toNat hc
  unfold stepFrame
  split
  · exact .refl _
  · split
    next h =>
      rw [h] at hr
      exact hr
    next h =>
      rw [h] at hr
      exact hr

/-- A command keeps the screen current; restoring a save does if its flag is up or its text is on the screen
already. -/
theorem perform_current (hc : c.machine.Valid) (h : c.Current shown) {cmd : Command}
    (hr : ∀ save m executed, cmd = .restore save → Save.read save = .ok (m, executed) →
      m.display.dirty = true ∨ shown = some m.display.text) :
    (c.perform cmd).1.Current ((c.perform cmd).2.redrawn?.or shown) := by
  cases cmd with
  | mount id program =>
    simp only [perform, answering, Answer.redrawn?_ofUnit, Option.none_or]
    exact h.of_announced (announced_mount id program)
  | unmount id =>
    simp only [perform, answering, Answer.redrawn?_ofUnit, Option.none_or]
    exact h.of_announced (announced_unmount id)
  | reset => exact .inl c.dirty_reset
  | step =>
    simp only [perform, answering, Answer.redrawn?_ofStep, Option.none_or]
    exact h.of_announced (announced_step hc)
  | stepFrame =>
    simp only [perform, answering, Answer.redrawn?_ofFrame, Option.none_or]
    exact h.of_announced (announced_stepFrame hc)
  | takeUpdate => exact takeUpdate_current h
  | restore save =>
    cases hs : Save.read save with
    | error r =>
      simp only [perform, answering, restore, hs]
      exact h
    | ok read =>
      simp only [perform, answering, restore, hs]
      exact hr save read.1 read.2 rfl hs
  | tick | setKeys mask | press key | release key | save => exact h

/-- Commands from power-on keep the screen current at every point exactly if every save that they restore has
its flag up or its text on the screen already. -/
theorem updates_current_iff (settings : MachineSettings) (chance : Random) (commands : List Command) :
    (∀ done, done <+: commands →
        let played := (powerOn settings chance).play done
        played.1.takeUpdate.2 = none → lastUpdate played.2 = some played.1.machine.display.text) ↔
      ∀ done save m executed, done ++ [.restore save] <+: commands → Save.read save = .ok (m, executed) →
        m.display.dirty = true ∨
          lastUpdate ((powerOn settings chance).play done).2 = some m.display.text := by
  constructor
  · intro h done save m executed hdone hread
    have hcurrent := current_iff.mpr (h _ hdone)
    rw [play_concat, lastUpdate_concat] at hcurrent
    simp only [perform, answering, restore, hread] at hcurrent
    exact hcurrent
  · intro h done hdone
    refine current_iff.mp ?_
    -- the screen is current from the start, and each command keeps it so
    induction done using List.reverseRecOn with
    | nil => exact .inl rfl
    | append_singleton done cmd ih =>
      have hvalid := play_valid (powerOn_valid settings chance) done
      have hbefore := ih ((List.prefix_append done [cmd]).trans hdone)
      rw [play_concat, lastUpdate_concat]
      refine perform_current hvalid hbefore fun save m executed hcmd hread => ?_
      exact h done save m executed (hcmd ▸ hdone) hread

theorem play_concat_restore {d : Console} (hd : d.machine.Valid) (c : Console) (done : List Command) :
    c.play (done ++ [.restore d.save]) = ((c.play done).1.takingOver d, (c.play done).2 ++ [.done]) := by
  rw [play_concat]
  simp only [perform, answering, restore_save hd, Answer.ofRestore]

theorem lastUpdate_play_takeUpdate {done : List Command} (h : (c.play done).1.machine.display.dirty = true) :
    lastUpdate (c.play (done ++ [.takeUpdate])).2 = some (c.play done).1.machine.display.text := by
  rw [play_concat, lastUpdate_concat]
  simp only [perform, answering, Answer.redrawn?, takeUpdate_of_dirty h, Option.some_or]

/-- A program that draws the byte at its own start. -/
def selfPortrait : List UInt8 := [0xA2, 0x00, 0xD0, 0x01]

/-- Going back to a save that was made after an update and before a drawing: the flag of the save is down, so
the screen keeps the drawing although the display is dark again. -/
theorem rewinding_loses_update :
    let c := powerOn .default (.ofSeed 0)
    let start : List Command := [.mount programSlot selfPortrait, .takeUpdate]
    let save := (c.play start).1.save
    let played := c.play (start ++ [.step, .step] ++ [.takeUpdate] ++ [.restore save])
    played.1.takeUpdate.2 = none ∧ lastUpdate played.2 ≠ some played.1.machine.display.text := by
  intro c start save played
  have hsaved := play_valid (powerOn_valid .default (.ofSeed 0)) start
  have hclean : (c.play start).1.machine.display.dirty = false := by decide +kernel
  have hdark : (c.play start).1.machine.display.lit (Display.place 0 0) = false := by decide +kernel
  have hdrawn : (c.play (start ++ [.step, .step])).1.machine.display.dirty = true := by decide +kernel
  have hlit : (c.play (start ++ [.step, .step])).1.machine.display.lit (Display.place 0 0) = true := by
    decide +kernel
  have hplayed := play_concat_restore hsaved c (start ++ [.step, .step] ++ [.takeUpdate])
  have hshown := lastUpdate_play_takeUpdate hdrawn
  unfold played save
  rw [hplayed, lastUpdate_concat, hshown]
  refine ⟨takeUpdate_of_clean ?_, fun h => ?_⟩
  · rw [machine_takingOver]
    exact hclean
  -- the two texts already differ in their first characters
  · have hhead := congrArg (fun text => text.toList.head?) (Option.some.inj h)
    dsimp only at hhead
    rw [machine_takingOver, Display.head?_text, Display.head?_text, hlit, hdark] at hhead
    cases hhead

end Console

end Chip8
