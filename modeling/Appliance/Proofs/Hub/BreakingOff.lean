import Appliance.Proofs.Hub.Silence
import Appliance.Proofs.Hub.Transcript

/-!
# Channels that break off

Options are taken as they are, and a hub may send what it likes and when it likes. A channel
then ends by giving its reason, but for one thing: the clock cannot tell everything that is
asked of it. Pings at no distance cannot be scheduled, nor a first ping beyond the end of the
clock, and after a message the end of a silence may lie beyond it. Whoever listens and needs to
know that breaks off, and its user is told of a channel that was dropped.

* `Transcript.standing` — where a transcript leaves a channel, before its websocket is closed.
* `Transcript.channel_breaks_off_iff` — **the clock alone breaks a channel off, and whatever
  else happens it gives its reason once or listens on.**
* `Transcript.unpaced_channel_breaks_off` — pings at no distance.
-/

namespace Appliance.Hub.Transcript

variable {options : Listener.Options} {t : Transcript}

/-- The clock cannot tell what the channel needs. -/
def Stalls (options : Listener.Options) (t : Transcript) : Prop :=
  Channel.Stalls options t.began t.pending t.inputs

/-- Where the channel stands before its websocket is closed. -/
theorem standing (options : Listener.Options) (t : Transcript) :
    Channel.Standing options t.began t.pending t.inputs (t.unclosed options) :=
  Channel.standing options t.began t.pending t.inputs

/-- Closed by its user, a channel that listens takes its leave of the hub and gives its
reason. -/
theorem run_shutdown (options : Listener.Options) (pingDue silenceDue time time' : Instant) :
    (Channel.listening pingDue silenceDue).run options
        [(time, .shutdown), (time', .socketClosed)] =
      (.over .graceful, [.send closeRecord, .closeSocket, .notify .graceful]) := rfl

/-- **The clock alone breaks a channel off.**  For all options and whatever the hub does, a
channel breaks off exactly if it has to listen and the clock cannot tell when its first ping is
due, or a message comes that it lives to receive, and the clock cannot tell when the silence
after it has lasted too long. Its user is then told of a channel that was dropped. Otherwise it
has given its own reason, once, or it listens, and then its user can close it at any time. -/
theorem channel_breaks_off_iff (options : Listener.Options) (t : Transcript) :
    ((t.outcome options).1 = .broken ↔ t.Stalls options) ∧
    (.breakOff ∈ (t.outcome options).2 ↔ t.Stalls options) ∧
    (t.Stalls options → t.told options = [.dropped]) ∧
    (¬ t.Stalls options →
      (∃ r, (t.outcome options).1 = .over r ∧ t.told options = [r]) ∨
      (∃ pingDue silenceDue, (t.outcome options).1 = .listening pingDue silenceDue) ∧
        t.told options = [] ∧
        ∀ time time', (t.outcome options).1.run options
            [(time, .shutdown), (time', .socketClosed)] =
          (.over .graceful, [.send closeRecord, .closeSocket, .notify .graceful])) := by
  have houtcome := outcome_eq options t
  have htold : t.told options = Channel.told (t.outcome options).2 := rfl
  rw [htold, houtcome]
  cases standing options t with
  | listens pingDue hpending hpaced houtlives htimed hc hnone hwhole =>
    have hstalls : ¬ t.Stalls options := Channel.not_stalls hpaced htimed
    have hlast : (t.unclosed options).1.step options t.closed .socketClosed =
        ((t.unclosed options).1, []) := by rw [hc]; rfl
    rw [hlast, List.append_nil, hc]
    exact ⟨iff_of_false (by simp) hstalls, iff_of_false hwhole hstalls,
      fun h => absurd h hstalls,
      fun _ => .inr ⟨⟨_, _, rfl⟩, hnone, run_shutdown options _ _⟩⟩
  | ended r hstalls _ hended hwhole =>
    obtain ⟨hover, hreason⟩ := hended.step_socketClosed options t.closed
    obtain ⟨-, hlast⟩ := hended.step options t.closed .socketClosed
    have hkept : .breakOff ∉ (t.unclosed options).2 ++
        ((t.unclosed options).1.step options t.closed .socketClosed).2 := by
      simp [hwhole, hlast]
    exact ⟨iff_of_false (by simp [hover]) hstalls, iff_of_false hkept hstalls,
      fun h => absurd h hstalls, fun _ => .inl ⟨r, hover, hreason⟩⟩
  | broken hstalls hc hdropped hwhole =>
    have hlast : (t.unclosed options).1.step options t.closed .socketClosed =
        ((t.unclosed options).1, []) := by rw [hc]; rfl
    rw [hlast, List.append_nil, hc]
    exact ⟨iff_of_true rfl hstalls, iff_of_true hwhole hstalls, fun _ => hdropped,
      fun h => absurd hstalls h⟩

/-- A hub that only answers the handshake. -/
def silent : Transcript := ⟨"\x7b\x7d\x1e", 0, [], 1⟩

/-- Pings at no distance break off the channel of a hub that has done nothing wrong. -/
theorem unpaced_channel_breaks_off :
    greet (.ok (.text silent.answer)) = .opened silent.pending ∧
      (silent.outcome unpaced).1 = .broken ∧ .breakOff ∈ (silent.outcome unpaced).2 ∧
      silent.told unpaced = [.dropped] := by
  have hstalls : silent.Stalls unpaced := ⟨rfl, .inl fun h => absurd h.1 (by decide)⟩
  obtain ⟨hbroken, hbreaks, htold, -⟩ := channel_breaks_off_iff unpaced silent
  exact ⟨rfl, hbroken.2 hstalls, hbreaks.2 hstalls, htold hstalls⟩

end Appliance.Hub.Transcript
