import EntityQuery.Proofs.Session.Limits
import EntityQuery.Proofs.Shell.Effect
import EntityQuery.Rehearsal

/-!
# Runs of the shell

The shell reads lines one after the other.  A line whose error is reported, or a
blank one, leaves the session as it was; one that is accepted has the effect of
its command; and one that ends the shell is the last to be read.

## Main Definitions

* `Host.feeding`: a host that feeds given lines.
* `Shell.Reading`: a line that is read, with the session and the world before it.
* `Shell.Fate`: what becomes of a line.
* `Shell.readings`: the readings of lines.

## Main Statements

* `feedLines_append`: lines are fed in parts.
* `Shell.Reading.exists_after_eq`: a line is dealt with by its fate.
* `Shell.feedLines_session`: lines make of a session what the accepted commands do.
* `Shell.exists_of_readings_eq`: a reading starts from where the lines before it
  have led.
* `Shell.feedLines_of_quits`: no line after one that ends the shell has any effect.
* `Shell.run_undamaged`: all of this about a shell from its greeting on.

## Design Notes

The world is that of any host, and so are the answers of the service.  A line
that is not text is not reported: the shell ends with its error.
-/

namespace EntityQuery

/-! ## Feeding lines -/

section Feeding

variable {m : Type → Type} [Monad m]

/-- A host as it is, except that it feeds the given lines. -/
def Host.feeding (host : Host m) (lines : List (List UInt8)) : Host m :=
  { host with feed := fun isFinal step => feedLines isFinal step lines }

/-- Lines are fed in parts: the second part only if the first does not lead to a final state. -/
theorem feedLines_append [LawfulMonad m] {τ : Type} {isFinal : τ → Bool}
    {step : List UInt8 → τ → m τ} {p : τ} (going : isFinal p = false)
    (lines more : List (List UInt8)) :
    feedLines isFinal step (lines ++ more) p = (do
      let p ← feedLines isFinal step lines p
      if isFinal p then pure p else feedLines isFinal step more p) := by
  induction lines generalizing p with
  | nil => simp [feedLines, going]
  | cons line lines ih =>
    simp only [List.cons_append, feedLines, bind_assoc]
    refine bind_congr fun p => ?_
    cases final : isFinal p with
    | true => simp [final]
    | false => simp [ih final]

end Feeding

namespace Shell

/-! ## Blank lines and lines that end the shell -/

/-- A line of blanks, if of anything. -/
def IsBlank (line : List UInt8) : Prop :=
  ∃ text, Text.decode? line = some text ∧ Text.trim text = []

/-- A line whose first word is that which ends the shell. -/
def Quits (line : List UInt8) : Prop :=
  ∃ text, Text.decode? line = some text ∧
    String.ofList (Text.cutWord (Text.trim text)).1 ∈ ["quit", "exit"]

theorem Command.parse_of_blank {text : List Char} (blank : Text.trim text = []) :
    parse (String.ofList text) = .ok none := by
  simp [parse, blank]

theorem Command.parse_of_quits {text : List Char}
    (quits : String.ofList (Text.cutWord (Text.trim text)).1 ∈ ["quit", "exit"]) :
    parse (String.ofList text) = .ok (some .quit) := by
  have filled : Text.trim text ≠ [] := by
    intro blank
    rw [blank] at quits
    revert quits
    decide
  have word : ofWord (Text.cutWord (Text.trim text)).1 (Text.cutWord (Text.trim text)).2 =
      .ok .quit := by
    simp only [List.mem_cons, List.not_mem_nil, or_false] at quits
    rcases quits with quits | quits <;> simp [ofWord, quits, pure, Except.pure]
  simp [parse, filled, word, Except.map]

/-! ## Readings -/

/-- The shell before its next line. -/
def Progress.going (s : Session) : Progress :=
  { session := s, ended := none }

@[simp] theorem Progress.going_session (s : Session) : (going s).session = s := rfl

@[simp] theorem Progress.isFinal_going (s : Session) : (going s).isFinal = false := rfl

theorem Progress.eq_going {p : Progress} (going : p.isFinal = false) : p = .going p.session := by
  rcases p with ⟨s, none | how⟩
  · rfl
  · cases going

/-- A line that is read, with the session and the world before it. -/
structure Reading (σ : Type) where
  line : List UInt8
  before : Session
  world : σ

/-- What becomes of a line. -/
inductive Fate where
  /-- It is blank. -/
  | skipped
  /-- Its error is reported. -/
  | reported (e : CommandError)
  /-- Its command is accepted, with the answer to the request that this issues, if it does. -/
  | accepted (c : Command) (answer : Option Arrival)
  /-- It ends the shell. -/
  | ends (how : Except CommandError Unit)

namespace Fate

/-- The command that is accepted, if one is, with the answer that it gets. -/
def accepted? : Fate → Option (Command × Option Arrival)
  | .accepted c answer => some (c, answer)
  | .skipped | .reported _ | .ends _ => none

/-- How far the shell has come after a line. -/
def progress (s : Session) : Fate → Progress
  | .skipped | .reported _ => .going s
  | .accepted c answer => .going (c.effect answer s)
  | .ends how => { session := s, ended := some how }

/-- The world after the error of a line is printed, if it has one that is reported. -/
def report {σ : Type} (host : Host (StateM σ)) (w : σ) : Fate → σ
  | .reported e => (host.print e.message w).2
  | .skipped | .accepted _ _ | .ends _ => w

end Fate

variable {σ : Type} (host : Host (StateM σ)) (service : Service (StateM σ))

namespace Reading

/-- What becomes of the line. -/
def fate (t : Reading σ) : Fate :=
  match Text.decode? t.line with
  | none => .ends (.error (.file .notUtf8))
  | some text =>
    match Command.parse (String.ofList text) with
    | .error e => .reported e
    | .ok none => .skipped
    | .ok (some c) =>
      match (perform host service c t.before t.world).1.1 with
      | .ok true => .accepted c (c.arrival? host service t.before t.world)
      | .ok false => .ends (.ok ())
      | .error e => .reported e

/-- The shell and the world after the line. -/
def after (t : Reading σ) : Progress × σ :=
  performLine host service t.line (.going t.before) t.world

end Reading

/-- The readings of lines, up to the one that ends the shell. -/
def readings : List (List UInt8) → Session → σ → List (Reading σ)
  | [], _, _ => []
  | line :: lines, s, w =>
    let t : Reading σ := { line, before := s, world := w }
    let (p, w) := t.after host service
    t :: if p.isFinal then [] else readings lines p.session w

namespace Reading

variable {t : Reading σ}

/-- A line is dealt with by its fate: that tells how far the shell has come, and whether the last
thing done is to print an error. -/
theorem exists_after_eq (allows : t.before.query.filters.maxDepth ≠ 0) :
    ∃ w, t.after host service =
      ((t.fate host service).progress t.before, (t.fate host service).report host w) := by
  unfold after fate performLine
  cases Text.decode? t.line with
  | none => exact ⟨t.world, rfl⟩
  | some text =>
    simp only [performText]
    cases Command.parse (String.ofList text) with
    | error e => exact ⟨t.world, rfl⟩
    | ok c? =>
      cases c? with
      | none => exact ⟨t.world, rfl⟩
      | some c =>
        simp only [bind_apply, perform_eq, Progress.going_session]
        -- What a command does is its effect, so it is left to see that errors and the end have none.
        cases verdict : c.verdict host service t.before t.world with
        | error e =>
          rw [effect_of_refused allows verdict]
          exact ⟨_, rfl⟩
        | ok goesOn =>
          cases goesOn with
          | true => exact ⟨_, rfl⟩
          | false =>
            obtain rfl := eq_quit_of_verdict verdict
            exact ⟨_, rfl⟩

/-- A blank line is skipped without a trace. -/
theorem after_of_blank (blank : IsBlank t.line) :
    t.after host service = (.going t.before, t.world) := by
  obtain ⟨text, decoded, blank⟩ := blank
  simp only [after, performLine, decoded, performText, Command.parse_of_blank blank]
  rfl

end Reading

variable {host service} {settings : Settings} {s : Session}

theorem Command.effect_reached (reached : Session.Reached settings s) (c : Command)
    (answer : Option Arrival) : Session.Reached settings (c.effect answer s) := by
  refine reached.run _ fun op mem => ?_
  rcases List.mem_append.mp mem with mem | mem
  · rw [Option.mem_toList] at mem
    cases c <;> cases mem <;> exact nofun
  · rw [Option.mem_toList] at mem
    obtain ⟨a, -, rfl⟩ := Option.map_eq_some_iff.mp mem
    exact nofun

theorem Fate.progress_reached (reached : Session.Reached settings s) (fate : Fate) :
    Session.Reached settings (fate.progress s).session := by
  cases fate with
  | accepted c answer => exact c.effect_reached reached answer
  | skipped | reported | ends => exact reached

/-- What a session of some settings has become after a line is one of these settings too. -/
theorem Reading.after_reached (checked : settings.check = .ok ()) {t : Reading σ}
    (reached : Session.Reached settings t.before) :
    Session.Reached settings (t.after host service).1.session := by
  obtain ⟨w, after⟩ := t.exists_after_eq host service (reached.maxDepth_ne_zero checked)
  rw [after]
  exact Fate.progress_reached reached (t.fate host service)

/-- The first line has a reading, and the others as long as the shell goes on. -/
theorem readings_cons (t : Reading σ) (lines : List (List UInt8)) :
    readings host service (t.line :: lines) t.before t.world =
      t :: if (t.after host service).1.isFinal then [] else
        readings host service lines (t.after host service).1.session (t.after host service).2 := rfl

/-- Feeding lines is feeding the first one, and the others as long as the shell goes on. -/
theorem feedLines_cons (t : Reading σ) (lines : List (List UInt8)) :
    feedLines Progress.isFinal (performLine host service) (t.line :: lines) (.going t.before)
        t.world =
      if (t.after host service).1.isFinal then t.after host service else
        feedLines Progress.isFinal (performLine host service) lines
          (t.after host service).1 (t.after host service).2 := by
  rw [feedLines, bind_apply]
  show (if (t.after host service).1.isFinal then pure (t.after host service).1 else
    feedLines Progress.isFinal (performLine host service) lines (t.after host service).1 :
      StateM σ Progress) (t.after host service).2 = _
  cases (t.after host service).1.isFinal <;> rfl

/-- Lines make of a session what the accepted commands do. -/
theorem feedLines_session (checked : settings.check = .ok ())
    (reached : Session.Reached settings s) (lines : List (List UInt8)) (w : σ) :
    (feedLines Progress.isFinal (performLine host service) lines (.going s) w).1.session =
      ((readings host service lines s w).filterMap fun t => (t.fate host service).accepted?).foldl
        (fun s c => c.1.effect c.2 s) s := by
  induction lines generalizing s w with
  | nil => rfl
  | cons line lines ih =>
    let t : Reading σ := { line, before := s, world := w }
    obtain ⟨w', after⟩ := t.exists_after_eq host service (reached.maxDepth_ne_zero checked)
    have reached' := Fate.progress_reached reached (t.fate host service)
    rw [readings_cons t, feedLines_cons t, List.filterMap_cons, after]
    cases fate : t.fate host service with
    | skipped | reported | accepted =>
      rw [fate] at reached'
      exact ih reached' _
    | ends how => rfl

/-- A reading of some lines starts from where the lines before it have led, and the readings after
it are those of the lines after it, if the shell goes on. -/
theorem exists_of_readings_eq (checked : settings.check = .ok ())
    (reached : Session.Reached settings s) {lines : List (List UInt8)} {w : σ}
    {earlier later : List (Reading σ)} {t : Reading σ}
    (cut : readings host service lines s w = earlier ++ t :: later) :
    Session.Reached settings t.before ∧
    feedLines Progress.isFinal (performLine host service) (earlier.map (·.line)) (.going s) w =
      (.going t.before, t.world) ∧
    ∃ rest, lines = earlier.map (·.line) ++ t.line :: rest ∧
      later = if (t.after host service).1.isFinal then [] else
        readings host service rest (t.after host service).1.session (t.after host service).2 := by
  induction earlier generalizing lines s w with
  | nil =>
    cases lines with
    | nil => cases cut
    | cons line lines =>
      obtain ⟨rfl, rfl⟩ := List.cons.inj cut
      exact ⟨reached, rfl, lines, rfl, rfl⟩
  | cons first earlier ih =>
    cases lines with
    | nil => cases cut
    | cons line lines =>
      obtain ⟨head, -⟩ := List.cons.inj cut
      obtain ⟨rfl, rfl, rfl⟩ : line = first.line ∧ s = first.before ∧ w = first.world := by
        rw [← head]
        exact ⟨rfl, rfl, rfl⟩
      rw [readings_cons] at cut
      rw [List.map_cons, feedLines_cons]
      have tail := (List.cons.inj cut).2
      cases going : (first.after host service).1.isFinal with
      | true =>
        rw [if_pos going] at tail
        cases earlier <;> cases tail
      | false =>
        rw [if_neg (Bool.eq_false_iff.mp going)] at tail
        rw [if_neg nofun]
        obtain ⟨reached', led, rest, rfl, later_eq⟩ := ih (Reading.after_reached checked reached) tail
        refine ⟨reached', ?_, rest, rfl, later_eq⟩
        rw [← led, ← Progress.eq_going going]

/-- A line that ends the shell changes nothing else. -/
theorem performLine_of_quits {line : List UInt8} (quits : Quits line) (p : Progress) :
    performLine host service line p = pure { session := p.session, ended := some (.ok ()) } := by
  obtain ⟨text, decoded, quits⟩ := quits
  simp only [performLine, decoded, performText, Command.parse_of_quits quits]
  rfl

/-- No line after one that ends the shell has any effect. -/
theorem feedLines_of_quits {q : List UInt8} (quits : Quits q) (first rest : List (List UInt8))
    (s : Session) :
    feedLines Progress.isFinal (performLine host service) (first ++ q :: rest) (.going s) = (do
      let p ← feedLines Progress.isFinal (performLine host service) first (.going s)
      pure (if p.isFinal then p else { session := p.session, ended := some (.ok ()) })) := by
  rw [feedLines_append (Progress.isFinal_going s)]
  refine bind_congr fun p => ?_
  split
  · rfl
  · rw [feedLines, performLine_of_quits quits, pure_bind]
    rfl

/-- The world after the greeting. -/
def greeted (host : Host (StateM σ)) (s : Session) (w : σ) : σ :=
  (host.print s!"dynquery shell, session {s.id}. Type 'help' for commands." w).2

/-- A shell greets, and then it is fed. -/
theorem run_feeding (lines : List (List UInt8)) (s : Session) (w : σ) :
    run (host.feeding lines) service s w =
      let r := feedLines Progress.isFinal (performLine host service) lines (.going s)
        (greeted host s w)
      ((r.1.ended.getD (.ok ()), r.1.session), r.2) := rfl

/-- No line damages the session of a shell.  The session after some lines is that which the
accepted commands make of it.  A line whose error is reported leaves it as it was, and so does a
blank one; then the next line is read.  The lines after the first that ends the shell might as well
not be there. -/
theorem run_undamaged (host : Host (StateM σ)) (service : Service (StateM σ))
    (checked : settings.check = .ok ()) (reached : Session.Reached settings s)
    (lines : List (List UInt8)) (w : σ) :
    let after (lines : List (List UInt8)) := run (host.feeding lines) service s w
    let ts := readings host service lines s (greeted host s w)
    (after lines).1.2 = (ts.filterMap fun t => (t.fate host service).accepted?).foldl
      (fun s c => c.1.effect c.2 s) s ∧
    (∀ earlier t later, ts = earlier ++ t :: later →
      t.before = (after (earlier.map (·.line))).1.2 ∧
      ∃ rest, lines = earlier.map (·.line) ++ t.line :: rest ∧
        (∀ e, t.fate host service = .reported e →
          (∃ w, t.after host service = (.going t.before, (host.print e.message w).2)) ∧
          later = readings host service rest t.before (t.after host service).2) ∧
        (IsBlank t.line →
          t.after host service = (.going t.before, t.world) ∧
          later = readings host service rest t.before t.world)) ∧
    ∀ first q rest, lines = first ++ q :: rest → Quits q →
      after lines = after (first ++ [q]) ∧ (after lines).1.2 = (after first).1.2 := by
  intro after ts
  have fed : ∀ lines, after lines = _ := fun lines => run_feeding lines s w
  refine ⟨?_, fun earlier t later cut => ?_, ?_⟩
  · rw [fed]
    exact feedLines_session checked reached lines _
  · obtain ⟨reached', led, rest, split, later_eq⟩ := exists_of_readings_eq checked reached cut
    refine ⟨?_, rest, split, fun e reported => ?_, fun blank => ?_⟩
    · rw [fed, led]
      rfl
    · obtain ⟨w', dealt⟩ := t.exists_after_eq host service (reached'.maxDepth_ne_zero checked)
      rw [reported] at dealt
      refine ⟨⟨w', dealt⟩, ?_⟩
      rw [later_eq, dealt]
      rfl
    · have skipped := t.after_of_blank host service blank
      refine ⟨skipped, ?_⟩
      rw [later_eq, skipped]
      rfl
  · rintro first q rest rfl quits
    simp only [fed, feedLines_of_quits quits, true_and, bind_apply]
    generalize feedLines Progress.isFinal (performLine host service) first (.going s)
      (greeted host s w) = r
    show (if r.1.isFinal then r.1 else _).session = r.1.session
    split <;> rfl

/-- A line that is refused, a blank one, one that is accepted, the end, and one more. -/
theorem run_undamaged_of_refused :
    let host := Rehearsal.host
    let service := Rehearsal.service
    let s := (Session.start "s" {}).session
    let w : Rehearsal := { sessionId := "s", files := ⟨[], [], []⟩ }
    let bytes := fun line : String => Text.encode line.toList
    let first := [bytes "size 0", bytes " ", bytes "size 5"]
    let after := fun lines => run (host.feeding lines) service s w
    let t : Reading Rehearsal := ⟨bytes "size 0", s, greeted host s w⟩
    ({} : Settings).check = .ok () ∧ Session.Reached {} s ∧
      t.fate host service = .reported (.query .zeroPageSize) ∧
      (t.after host service).1 = .going s ∧ IsBlank (bytes " ") ∧ Quits (bytes "quit") ∧
      (after (first ++ [bytes "quit", bytes "size 7"])).1.2 = (after first).1.2 ∧
      (after first).1.2.query.size = 5 := by
  intro host service s w bytes first after t
  obtain ⟨-, read, quit⟩ := run_undamaged host service Settings.check_default (.start "s")
    (first ++ [bytes "quit", bytes "size 7"]) w
  have refused : t.fate host service = .reported (.query .zeroPageSize) := by
    have decoded : Text.decode? t.line = some "size 0".toList := by decide +kernel
    have parsed : Command.parse (String.ofList "size 0".toList) =
      .ok (some (.edit (.size 0))) := rfl
    simp only [Reading.fate, decoded, parsed]
    rfl
  have quits : Quits (bytes "quit") := ⟨"quit".toList, by decide +kernel, by decide +kernel⟩
  have blank : IsBlank (bytes " ") := ⟨" ".toList, by decide +kernel, by decide +kernel⟩
  obtain ⟨-, rest, -, reported, -⟩ := read [] t _ rfl
  obtain ⟨⟨w', dealt⟩, -⟩ := reported _ refused
  exact ⟨Settings.check_default, .start "s", refused, congrArg (·.1) dealt, blank, quits,
    (quit first _ _ rfl quits).2, by decide +kernel⟩

end Shell

end EntityQuery
