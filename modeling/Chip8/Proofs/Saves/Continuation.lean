import Chip8.Proofs.Saves.RoundTrip
import Chip8.Proofs.Twins

namespace Chip8.Console

variable {c d : Console}

/-- What takes over from a console is its twin, and in sync with it if the random sources are. -/
theorem twin_takingOver (hc : c.program.isSome) (hd : d.program.isSome)
    (hf : d.settings.instructionsPerFrame = c.settings.instructionsPerFrame) :
    Twin (d.processor.random = c.processor.random) c (d.takingOver c) :=
  ⟨⟨rfl, rfl, id⟩, hf, hc, hd⟩

/-- A console `d` that restores the save of a reachable console `c`, with some program mounted in each and
frames of the same size, goes on like `c`. Any ordinary commands up to the first instruction that draws a
random byte get the same answers and lead to the same machine and the same counter. In the command that
comes next, both execute the same instructions up to and including the first that draws, with the same
machine and the same counter after every one until then. If the random sources are in the same state, all of
it stays the same whatever is drawn. -/
theorem restored_continues_alike (hc : c.Reachable) (hprogram : c.program.isSome) (hother : d.program.isSome)
    (hf : d.settings.instructionsPerFrame = c.settings.instructionsPerFrame) :
    let e := (d.restore c.save).1
    (d.restore c.save).2 = .ok () ∧
      ∀ commands : List Command, (∀ cmd ∈ commands, cmd.ordinary) →
        let left := (c.play commands).1
        let right := (e.play commands).1
        (Quiet (c.trail commands) →
          (e.play commands).2 = (c.play commands).2 ∧ e.trail commands = c.trail commands ∧
          right.machine = left.machine ∧ right.processor.executed = left.processor.executed ∧
          right.sounding = left.sounding ∧
          ∀ cmd k, cmd.ordinary → Quiet ((left.trace cmd).take k) →
            (right.trace cmd).take (k + 1) = (left.trace cmd).take (k + 1) ∧
            (k ≤ (left.trace cmd).length →
              (right.processor.run k).1.machine = (left.processor.run k).1.machine ∧
              (right.processor.run k).1.executed = (left.processor.run k).1.executed)) ∧
        (d.processor.random = c.processor.random →
          (e.play commands).2 = (c.play commands).2 ∧ e.trail commands = c.trail commands ∧
          right.sounding = left.sounding ∧ right.processor = left.processor) := by
  -- from here on the other console is the one that took over, a twin of the first
  rw [restore_save hc.valid]
  refine ⟨rfl, fun commands ho => ?_⟩
  have htwin := twin_takingOver hprogram hother hf
  have hplay := htwin.play commands hc.valid ho
  refine ⟨fun hq => ?_, fun hr => ?_⟩
  · obtain ⟨hanswers, htrail, hend⟩ := hplay (.inr hq)
    have hleft := play_valid hc.valid commands
    refine ⟨hanswers, htrail, hend.machine, hend.processor.executed, hend.sounding, fun cmd k _ hk => ?_⟩
    obtain ⟨htake, hrun⟩ := hend.take_trace hleft cmd k hk
    exact ⟨htake, fun hlen => ⟨(hrun hlen).machine, (hrun hlen).executed⟩⟩
  · obtain ⟨hanswers, htrail, hend⟩ := hplay (.inl hr)
    exact ⟨hanswers, htrail, hend.sounding, hend.processor.eq_of_synced hr⟩

/-- A program that sets the delay timer and then rolls a die for ever. -/
def dicing : List UInt8 := [0x60, 0x05, 0xF0, 0x15, 0xC1, 0xFF, 0x12, 0x04]

/-- A program that does nothing. -/
def idling : List UInt8 := [0x12, 0x00]

/-- A console with a program in it and a seed. -/
def seeded (program : List UInt8) (seed : UInt64) : Console :=
  ((powerOn ⟨10, some seed⟩ (.ofSeed 0)).play [.mount programSlot program]).1

theorem exists_seeded_eq {program : List UInt8} (h : program.length ≤ maxProgramSize) :
    ∃ m, ∀ seed, seeded program seed = started ⟨10, some seed⟩ (.ofSeed 0) program m := by
  obtain ⟨m, hm⟩ : ∃ m, Machine.powerOn.load program = .ok m := ⟨_, dif_pos h⟩
  refine ⟨m, fun seed => ?_⟩
  change ((powerOn ⟨10, some seed⟩ (.ofSeed 0)).mount programSlot program).1 = _
  rw [mount_powerOn, hm]

theorem dicing_continues_alike :
    let start : List Command := [.step, .tick, .step, .takeUpdate]
    let frames : List Command := [.stepFrame, .stepFrame]
    let other := ((seeded idling 2).restore (seeded dicing 1).save).1
    (other.play start).2 = ((seeded dicing 1).play start).2 ∧
      (other.play start).1.machine = ((seeded dicing 1).play start).1.machine ∧
      ((other.play start).1.trace .stepFrame).take 1 = [.random 1 0xFF] ∧
      (((seeded idling 1).restore (seeded dicing 1).save).1.play frames).1.processor =
        ((seeded dicing 1).play frames).1.processor := by
  intro start frames other
  have hquiet : Quiet ((seeded dicing 1).trail start) := by decide +kernel
  have hdraw : (((seeded dicing 1).play start).1.trace .stepFrame).take 1 = [.random 1 0xFF] := by
    decide +kernel
  obtain ⟨m, hdicing⟩ := exists_seeded_eq (show dicing.length ≤ maxProgramSize by decide)
  obtain ⟨n, hidling⟩ := exists_seeded_eq (show idling.length ≤ maxProgramSize by decide)
  have hreachable : (seeded dicing 1).Reachable := reachable_play _ _ _
  have hc : (seeded dicing 1).program.isSome := by
    rw [hdicing]
    rfl
  have hd (seed : UInt64) : (seeded idling seed).program.isSome := by
    rw [hidling]
    rfl
  have hf (seed : UInt64) :
      (seeded idling seed).settings.instructionsPerFrame =
        (seeded dicing 1).settings.instructionsPerFrame := by
    rw [hidling, hdicing]
    rfl
  have hrandom : (seeded idling 1).processor.random = (seeded dicing 1).processor.random := by
    rw [hidling, hdicing]
    rfl
  have hother := (restored_continues_alike hreachable hc (hd 2) (hf 2)).2 start (by decide)
  have hsame := (restored_continues_alike hreachable hc (hd 1) (hf 1)).2 frames (by decide)
  obtain ⟨hanswers, -, hmachine, -, -, hnext⟩ := hother.1 hquiet
  obtain ⟨hfirst, -⟩ := hnext .stepFrame 0 rfl Quiet.nil
  obtain ⟨-, -, -, hprocessor⟩ := hsame.2 hrandom
  exact ⟨hanswers, hmachine, hfirst.trans hdraw, hprocessor⟩

end Chip8.Console
