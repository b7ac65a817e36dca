import ToneLink.Proofs.CheckedPlans

/-!
# Which device plays

A user asks for a device by its place in the list or by part of its name. Names are compared in
lowercase, letter by letter, which is case-insensitive comparison for all letters but two: the
lowercase form of a capital sigma depends on what surrounds it, and a capital I with a dot becomes
two letters.

- `Text.occursIn_iff`, `Text.lowerFrom_of_plain`: what the comparison of two texts comes to;
- `Audio.Contains`, `Audio.contains_iff_of_plain`: a name contains a text if a stretch of it is the
  text up to case;
- `Audio.System.Selects`: the device that a query stands for;
- `Audio.Playback.startStream_eq_ok_iff`: a stream starts exactly if there is a thread for it and
  such a device, and nothing is wrong with it;
- `Audio.Playback.resolve_misses_capital_sigma`: a name that is not found by its own beginning.
-/

namespace ToneLink

/-! ## Comparing texts -/

namespace Text

theorem occursIn_iff (part text : List Char) : occursIn part text = true ↔ part <:+: text := by
  induction text with
  | nil => rw [occursIn, List.isEmpty_iff, List.infix_nil]
  | cons c rest ih =>
    rw [occursIn, Bool.or_eq_true, List.isPrefixOf_iff_prefix, ih, List.infix_cons_iff]

/-- A text without the two letters whose lowercase form is not a letter of its own. -/
def Plain (text : List Char) : Prop := 'Σ' ∉ text ∧ 'İ' ∉ text

/-- The letters of a plain text are lowered one by one, wherever they stand. -/
theorem lowerFrom_of_plain {text : List Char} (h : Plain text) (before : List Char) :
    lowerFrom before text = text.map lowerChar := by
  induction text generalizing before with
  | nil => rfl
  | cons c rest ih =>
    obtain ⟨hsigma, hdotted⟩ := h
    rw [List.mem_cons, not_or] at hsigma hdotted
    rw [lowerFrom, if_neg (Ne.symm hsigma.1), if_neg (Ne.symm hdotted.1),
      ih ⟨hsigma.2, hdotted.2⟩, List.map_cons, List.singleton_append]

theorem toList_lowercase_of_plain {text : List Char} (h : Plain text) :
    (lowercase (.ofList text)).toList = text.map lowerChar := by
  rw [lowercase, String.toList_ofList, String.toList_ofList, lowerFrom_of_plain h]

theorem Plain.of_infix {stretch text : List Char} (h : Plain text) (hs : stretch <:+: text) :
    Plain stretch :=
  ⟨fun hmem => h.1 (hs.subset hmem), fun hmem => h.2 (hs.subset hmem)⟩

end Text

namespace Audio

/-- A name contains a text, case disregarded: in lowercase, the one is a stretch of the other. -/
def Contains (name part : String) : Prop :=
  (Text.lowercase part).toList <:+: (Text.lowercase name).toList

theorem containsIgnoringCase_iff (name part : String) :
    Text.containsIgnoringCase name part = true ↔ Contains name part :=
  Text.occursIn_iff _ _

/-- A plain name contains a text exactly if some stretch of the name is the text up to case. -/
theorem contains_iff_of_plain {name : String} (h : Text.Plain name.toList) (part : String) :
    Contains name part ↔ ∃ stretch, stretch <:+: name.toList ∧
      Text.lowercase (.ofList stretch) = Text.lowercase part := by
  have hname : (Text.lowercase name).toList = name.toList.map Text.lowerChar := by
    rw [← Text.toList_lowercase_of_plain h, String.ofList_toList]
  have hstretch : ∀ stretch, stretch <:+: name.toList →
      (Text.lowercase (.ofList stretch) = Text.lowercase part
        ↔ (Text.lowercase part).toList = stretch.map Text.lowerChar) := by
    intro stretch hs
    rw [← Text.toList_lowercase_of_plain (h.of_infix hs), String.toList_inj, eq_comm]
  rw [Contains, hname, List.infix_map_iff]
  constructor
  · rintro ⟨stretch, hs, hpart⟩
    exact ⟨stretch, hs, (hstretch stretch hs).mpr hpart⟩
  · rintro ⟨stretch, hs, hpart⟩
    exact ⟨stretch, hs, (hstretch stretch hs).mp hpart⟩

/-! ## Selecting and starting -/

namespace Device

/-- A device answers to part of its name; one that does not tell its name answers to nothing. -/
theorem answersTo_iff (d : Device) (part : String) :
    d.answersTo part = true ↔ ∃ name, d.name = some name ∧ Contains name part := by
  unfold answersTo
  cases d.name with
  | none => simp
  | some name => simp [containsIgnoringCase_iff]

/-- The first device that answers is the first one whose name contains the text. -/
theorem find?_answersTo_iff (devices : List Device) (part : String) (d : Device) :
    devices.find? (·.answersTo part) = some d ↔
      ∃ name before behind, devices = before ++ d :: behind ∧ d.name = some name ∧
        Contains name part ∧
        ∀ e ∈ before, ∀ other, e.name = some other → ¬ Contains other part := by
  rw [List.find?_eq_some_iff_append, d.answersTo_iff]
  constructor
  · rintro ⟨⟨name, hname, hpart⟩, before, behind, hplace, hfirst⟩
    refine ⟨name, before, behind, hplace, hname, hpart, fun e he other hother hcontains => ?_⟩
    have hanswers := (e.answersTo_iff part).mpr ⟨other, hother, hcontains⟩
    simpa [hanswers] using hfirst e he
  · rintro ⟨name, before, behind, hplace, hname, hpart, hfirst⟩
    refine ⟨⟨name, hname, hpart⟩, before, behind, hplace, fun e he => ?_⟩
    rw [Bool.not_eq_true', ← Bool.not_eq_true, e.answersTo_iff]
    rintro ⟨other, hother, hcontains⟩
    exact hfirst e he other hother hcontains

/-- A device starts exactly if nothing is wrong with it. -/
theorem start_eq_ok_iff (d : Device) (format : PcmFormat) (stream : Stream) :
    d.start format = .ok stream ↔
      d.openError = none ∧ d.startError = none ∧ d.late = false ∧
        stream = ⟨d.displayName, format⟩ := by
  unfold start
  cases d.late with
  | true => simp
  | false =>
    cases d.openError with
    | some reason => simp
    | none =>
      cases d.startError with
      | some reason => simp
      | none => simp [eq_comm]

/-- A device fails for being late only if it is. -/
theorem late_of_start {d : Device} {format : PcmFormat} (h : d.start format = .error .notInTime) :
    d.late = true := by
  unfold start at h
  cases hlate : d.late with
  | true => rfl
  | false =>
    rw [hlate, if_neg Bool.false_ne_true] at h
    cases hopen : d.openError with
    | some reason => simp [hopen] at h
    | none => cases hplay : d.startError <;> simp [hopen, hplay] at h

end Device

/-- The device that a query stands for: without a query the default one, and otherwise one of the
list. Devices that do not tell their names have places in the list like all others. -/
inductive System.Selects (s : System) : Option Query → Device → Prop
  | default {d : Device} (hdefault : s.default = some d) : s.Selects none d
  | index {position : Nat} {d : Device} (hlisted : s.listError = none)
      (hplace : s.devices[position]? = some d) : s.Selects (some (.index position)) d
  | named {part name : String} {before behind : List Device} {d : Device}
      (hlisted : s.listError = none) (hplace : s.devices = before ++ d :: behind)
      (hname : d.name = some name) (hpart : Contains name part)
      (hfirst : ∀ e ∈ before, ∀ other, e.name = some other → ¬ Contains other part) :
      s.Selects (some (.named part)) d

namespace System

/-- What is not there is refused, and what is there is handed over. -/
theorem elim_eq_ok_iff {α ε : Type} {found : Option α} {e : ε} {a : α} :
    found.elim (.error e) .ok = (.ok a : Except ε α) ↔ found = some a := by
  cases found <;> simp

theorem select_eq_ok_iff (s : System) (query : Option Query) (d : Device) :
    s.select query = .ok d ↔ s.Selects query d := by
  rcases query with _ | query
  · rw [select, elim_eq_ok_iff]
    constructor
    · exact .default
    · rintro ⟨hdefault⟩
      exact hdefault
  · cases hlisted : s.listError with
    | some reason =>
      -- without a list no device of it is selected
      have hno : s.listError ≠ none := by simp [hlisted]
      simp only [select, hlisted, reduceCtorEq, false_iff]
      rintro (_ | ⟨hnone, -⟩ | ⟨hnone, -⟩) <;> exact hno hnone
    | none =>
      cases query with
      | index position =>
        simp only [select, hlisted, elim_eq_ok_iff]
        constructor
        · exact .index hlisted
        · rintro (_ | ⟨-, hplace⟩)
          exact hplace
      | named part =>
        simp only [select, hlisted, elim_eq_ok_iff, Device.find?_answersTo_iff]
        constructor
        · rintro ⟨name, before, behind, hplace, hname, hpart, hfirst⟩
          exact .named hlisted hplace hname hpart hfirst
        · rintro (_ | _ | ⟨-, hplace, hname, hpart, hfirst⟩)
          exact ⟨_, _, _, hplace, hname, hpart, hfirst⟩

/-- To select a device takes no time. -/
theorem select_ne_notInTime (s : System) (query : Option Query) :
    s.select query ≠ .error .notInTime := by
  have hneither : ∀ {found : Option Device} {e : Failure}, e ≠ .notInTime →
      found.elim (.error e) .ok ≠ (.error .notInTime : Except Failure Device) := by
    intro found e he
    cases found <;> simp [he]
  rcases query with _ | query
  · exact hneither (by decide)
  · cases hlisted : s.listError with
    | some reason => simp [select, hlisted]
    | none =>
      cases query with
      | index position => simpa only [select, hlisted] using hneither (by simp)
      | named part => simpa only [select, hlisted] using hneither (by simp)

/-- A query stands for one device at most. -/
theorem Selects.unique {s : System} {query : Option Query} {d e : Device} (hd : s.Selects query d)
    (he : s.Selects query e) : d = e := by
  have hboth := (s.select_eq_ok_iff query d).mpr hd
  rw [(s.select_eq_ok_iff query e).mpr he] at hboth
  exact (Except.ok.inj hboth).symm

end System

namespace Playback

/-- A stream starts exactly if there is a thread for it, the device that is asked for exists and
nothing is wrong with it. -/
theorem startStream_eq_ok_iff (plan : ListenPlan) (query : Option Query) (system : System)
    (stream : Stream) :
    (startStream plan query system).1 = .ok stream ↔
      system.threadError = none ∧ ∃ d, system.Selects query d ∧ d.openError = none ∧
        d.startError = none ∧ d.late = false ∧ stream = ⟨d.displayName, plan.format⟩ := by
  simp only [startStream, ← System.select_eq_ok_iff]
  cases system.threadError with
  | some reason => simp
  | none =>
    cases system.select query with
    | error e => simp
    | ok device => simp [Device.start_eq_ok_iff]

/-- A stream fails for being late only if the device is. -/
theorem late_of_notInTime {plan : ListenPlan} {query : Option Query} {system : System}
    (h : (startStream plan query system).1 = .error .notInTime) :
    ∃ d, system.Selects query d ∧ d.late = true := by
  unfold startStream at h
  cases hthread : system.threadError with
  | some reason => simp [hthread] at h
  | none =>
    simp only [hthread] at h
    cases hselect : system.select query with
    | error e =>
      rw [hselect] at h
      obtain rfl : e = .notInTime := Except.error.inj h
      exact absurd hselect (system.select_ne_notInTime query)
    | ok d =>
      refine ⟨d, (system.select_eq_ok_iff query d).mp hselect, ?_⟩
      simp only [hselect] at h
      exact Device.late_of_start h

/-- A device whose name begins with the very text that is asked for is not found, though nothing is
wrong with it. The text ends in a capital sigma and so its lowercase form ends in the final form of
the letter; in the name another letter follows. -/
theorem resolve_misses_capital_sigma :
    let part := "ΗΧΟΣ"
    let name := "ΗΧΟΣΥΣΤΗΜΑ"
    let device : Device := { name := some name, openError := none, startError := none }
    let system : System := { default := none, devices := [device], listError := none }
    part.toList <:+: name.toList ∧ ∃ plan, ListenPlan.check 0 8000 1 1 = .ok plan ∧
      (resolve plan false (some (.named part)) system).1 = .statsOnly := by
  intro part name device system
  have hnone : [device].find? (·.answersTo part) = none := by decide +kernel
  have hframes : (ListenPlan.check 0 8000 1 1).toOption.map ListenPlan.jitterFrames = some 8 := by
    decide +kernel
  obtain ⟨plan, hplan, -⟩ := exists_ok_of_toOption_map hframes
  refine ⟨⟨[], "ΥΣΤΗΜΑ".toList, by decide⟩, plan, hplan, ?_⟩
  simp [resolve, startStream, System.select, system, hnone]

end Playback

end Audio

end ToneLink
