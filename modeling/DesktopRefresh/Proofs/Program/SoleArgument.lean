import DesktopRefresh.Proofs.CommandLine.Acceptance
import DesktopRefresh.Proofs.Program

/-!
# A sole argument

An argument that is not reserved is the data directory, byte for byte, if it is the only one (`run_sole`). This
fails for a long argument whose name is no text: it is rejected, and nothing is refreshed.
-/

namespace DesktopRefresh.CommandLine

open Token (dash equals longArg)

theorem parse_nameless {name : Bytes} (he : equals ∉ name) (hs : ∀ s, Bytes.ofString s ≠ name)
    (attached : Option Bytes) : parse [longArg name attached] = .error (.unknownArgument name []) := by
  have hstep : State.initial.step (longArg name attached) = .error (.unknownArgument name []) := by
    simp only [State.step, State.initial, Token.ofArg_undecodable he hs]
    rfl
  rw [parse, List.foldlM_cons, hstep]
  rfl

/-- A sole argument that is not reserved is the data directory, and on a live system this is what is refreshed,
unless it is a long argument whose name is no text. Such a one is rejected, and no tool is asked for. -/
theorem run_sole {σ : Type} (runner : Runner σ) (s : σ) {b : Bytes} (h : ¬ Reserved b) :
    (¬ Nameless b → ∃ p, parse [b] = .ok p ∧ p.extra = [] ∧ ∀ root, (p.toConfig root).datadir = some b ∧
      ((p.toConfig root).IsLive → Hook.run runner (p.toConfig root) s =
        let outcome := Execution.execute runner ⟨.ofSeconds 120, false⟩ b s
          (Trigger.builtin "gtk-update-icon-cache" "update-desktop-database")
        (.refreshed outcome.1.results, outcome))) ∧
    ∀ name attached, equals ∉ name → (∀ t, Bytes.ofString t ≠ name) → b = longArg name attached →
      parse [b] = .error (.unknownArgument name []) ∧
      ∀ env, Program.run runner env [b] s = (.rejected (.unknownArgument name []), s) := by
  constructor
  · intro hb
    have hw : ¬ OptionLike b := by
      rw [optionLike_iff, not_or]
      exact ⟨h, hb⟩
    refine ⟨_, parse_word hw, rfl, fun root => ⟨rfl, fun hl => ?_⟩⟩
    exact Hook.run_of_refresh runner hl.decide_eq s
  · rintro name attached he hs rfl
    have hp := parse_nameless he hs attached
    exact ⟨hp, fun env => Program.run_of_error runner env s hp⟩

/-- A flag that nobody knows with a value that is no text, on a host without tools. -/
theorem run_sole_unknown :
    let b := Bytes.ofString "--prefix=" ++ [0xFF]
    let bare : Runner Unit := ⟨fun s _ => (false, s), fun s _ _ => (.ok .none, s), fun _ => []⟩
    ¬ Reserved b ∧ ¬ Nameless b ∧ ∃ p, parse [b] = .ok p ∧ (p.toConfig (some "")).datadir = some b ∧
      (p.toConfig (some "")).IsLive ∧
      (Hook.run bare (p.toConfig (some "")) ()).1 = .refreshed ⟨0, 0, 2, []⟩ := by
  intro b bare
  have hw : Token.ofArg b = .word := by decide
  have hn : ¬ Nameless b := fun hn =>
    (Token.ofArg_eq_word_iff b).mp hw ((optionLike_iff b).mpr (.inr hn))
  have hr := not_reserved_of_word hw
  obtain ⟨p, hp, -, hc⟩ := (run_sole bare () hr).1 hn
  obtain ⟨hd, hrun⟩ := hc (some "")
  have hl : (p.toConfig (some "")).IsLive := fun root hroot => (Option.some.inj hroot).symm
  exact ⟨hr, hn, p, hp, hd, hl, by rw [hrun hl]; rfl⟩

/-- The shortest long argument whose name is no text is not taken as the data directory. -/
theorem not_forall_parse_sole : ¬ ∀ b : Bytes, ¬ Reserved b →
    ∃ p, parse [b] = .ok p ∧ p.extra = [] ∧ ∀ root, (p.toConfig root).datadir = some b := by
  intro h
  have hu : Token.ofArg [dash, dash, 0xFF] = .undecodable [0xFF] := by decide
  obtain ⟨p, hp, -⟩ := h _ (not_reserved_of_undecodable hu)
  have hr : parse [[dash, dash, 0xFF]] = .error (.unknownArgument [0xFF] []) := by decide
  rw [hr] at hp
  cases hp

end DesktopRefresh.CommandLine
