import VehicleDamage.Proofs.Console.Session
import VehicleDamage.Proofs.Directory

/-!
Input that only reads, or that fails, is not noticed by what comes after it: without it a session goes on as with it.
A rendering may leave a file behind, though, so no template may be read from a file that was last changed that way.
-/

namespace VehicleDamage

namespace Reply

/-- The file that a reply is written to, if it can be written. -/
def target? (r : Reply) (d : Directory) : Option String :=
  r.writing.bind fun w => (d.locate w.path).toOption

/-- Saving a reply puts one text into one file or leaves all as they are, the same whatever files there are. -/
theorem save_cases (r : Reply) :
    (∃ result name document, ∀ d, r.target? d = some name ∧ r.save d = (result, d.insert name document)) ∨
      ∃ result, ∀ d, r.target? d = none ∧ r.save d = (result, d) := by
  simp only [target?, save]
  cases hw : r.writing with
  | none => exact .inr ⟨_, fun _ => ⟨rfl, rfl⟩⟩
  | some w =>
      obtain ⟨name, hfile⟩ | hrefused := Directory.leads_or_refused w.path
      · refine .inl ⟨r.settle (.ok ()), name, w.document, fun d => ?_⟩
        simp [Directory.write, hfile d, bind, Except.bind, pure, Except.pure, Except.toOption]
      · refine .inr ⟨.error (.unwritable w.path), fun d => ?_⟩
        obtain ⟨fault, hl⟩ := hrefused d
        simp [Directory.write, hl, settle, hw, bind, Except.bind, Except.toOption]

end Reply

/-- The file that an input has a template read from, or looked for behind. -/
def Input.reads : Input → Option String
  | template path => Directory.entry? path
  | line _ | saved .. | removed _ => none

/-- The file that a line asks to have a rendering written to. -/
def Input.renders : Input → Option String
  | line text => match Command.parse text with
    | .ok (.render _ (some path)) => Directory.entry? path
    | _ => none
  | template _ | saved .. | removed _ => none

/-- The elements that are marked. -/
def kept {α : Type} (marked : List (α × Bool)) : List α :=
  (marked.filter (·.2)).map (·.1)

namespace Session

variable {s s' : Session} {input : Input} {touched : List String}

/-- Input that is to leave no trace: a line that is no command or asks for a rendering or the status, and a template
that cannot be taken up. -/
def isQuiet (s : Session) : Input → Bool
  | .line text => match Command.parse text with
    | .error _ | .ok (.render ..) | .ok .status => true
    | .ok _ => false
  | .template path => !(Catalog.ofFile s.console.markers path (s.files.read path)).isOk
  | .saved .. | .removed _ => false

/-- The file that dealing with an input writes or removes. -/
def written (s : Session) : Input → Option String
  | .line text => match (s.console.interpret text).1 with
    | .error _ => none
    | .ok reply => reply.target? s.files
  | .template _ => none
  | .saved name _ | .removed name => some name

/-- What an input does to the files rests on the console alone: one of them gets another content, or none does. -/
theorem files_step (c : Console) (input : Input) :
    ∃ target content, ∀ d, (⟨c, d⟩ : Session).written input = target ∧
      ∀ name, ((⟨c, d⟩ : Session).step input).2.files.get? name =
        if target = some name then content else d.get? name := by
  cases input with
  | template path => exact ⟨none, none, fun d => ⟨rfl, fun name => rfl⟩⟩
  | saved other text =>
      refine ⟨some other, some text, fun d => ⟨rfl, fun name => ?_⟩⟩
      simp [step, SortedMap.get?_insert, eq_comm]
  | removed other =>
      refine ⟨some other, none, fun d => ⟨rfl, fun name => ?_⟩⟩
      simp [step, SortedMap.get?_erase, eq_comm]
  | line text =>
      cases hi : c.interpret text with
      | mk result console =>
          cases result with
          | error fault => exact ⟨none, none, fun d => ⟨by simp [written, hi], fun name => by simp [step, hi]⟩⟩
          | ok reply =>
              obtain ⟨_, other, document, hsave⟩ | ⟨_, hsave⟩ := reply.save_cases
              · refine ⟨some other, some document, fun d => ⟨by simp [written, hi, (hsave d).1], fun name => ?_⟩⟩
                simp [step, hi, (hsave d).2, SortedMap.get?_insert, eq_comm]
              · refine ⟨none, none, fun d => ⟨by simp [written, hi, (hsave d).1], fun name => ?_⟩⟩
                simp [step, hi, (hsave d).2]

/-- What is seen of an input rests on the console and the file it reads. -/
theorem step_congr (hc : s.console = s'.console)
    (hr : ∀ name, input.reads = some name → s.files.get? name = s'.files.get? name) :
    (s.step input).1 = (s'.step input).1 ∧ (s.step input).2.console = (s'.step input).2.console := by
  obtain ⟨c, d⟩ := s
  obtain ⟨c', d'⟩ := s'
  obtain rfl : c = c' := hc
  cases input with
  | template path =>
      have hread : d.read path = d'.read path := Directory.read_congr hr
      simp only [step, hread, and_self]
  | saved | removed => exact ⟨rfl, rfl⟩
  | line text =>
      cases hi : c.interpret text with
      | mk result console =>
          cases result with
          | error fault => simp only [step, hi, and_self]
          | ok reply =>
              obtain ⟨_, _, _, hsave⟩ | ⟨_, hsave⟩ := reply.save_cases
              · simp only [step, hi, (hsave _).2, and_self]
              · simp only [step, hi, (hsave _).2, and_self]

/-- A command that reads leaves the service as it is. -/
theorem execute_quiet (workers : Nat) (s : Service) {command : Command}
    (h : command = .status ∨ ∃ vehicle path, command = .render vehicle path) :
    (Console.execute workers s command).2 = s := by
  obtain rfl | ⟨vehicle, path, rfl⟩ := h <;> rfl

/-- Quiet input leaves the console as it is. -/
theorem console_step_quiet (h : s.isQuiet input = true) : (s.step input).2.console = s.console := by
  cases input with
  | saved | removed => cases h
  | template path =>
      cases hc : Catalog.ofFile s.console.markers path (s.files.read path) with
      | error fault => simp only [step, Console.reload, hc]
      | ok catalog =>
          rw [isQuiet, hc] at h
          cases h
  | line text =>
      cases hp : Command.parse text with
      | error fault => simp only [step, Console.interpret, hp]
      | ok command =>
          have hreads : command = .status ∨ ∃ vehicle path, command = .render vehicle path := by
            rw [isQuiet, hp] at h
            cases command with
            | render vehicle path => exact .inr ⟨vehicle, path, rfl⟩
            | status => exact .inl rfl
            | register | record | reset | evict => cases h
          have hs := execute_quiet s.console.workers s.console.service hreads
          simp only [step, Console.interpret, hp, hs]

/-! ### Two sessions -/

/-- Two sessions that differ at most in some files. -/
structure Agree (touched : List String) (s s' : Session) : Prop where
  console_eq : s.console = s'.console
  get?_eq : ∀ name, name ∉ touched → s.files.get? name = s'.files.get? name

theorem Agree.refl (s : Session) : Agree [] s s :=
  ⟨rfl, fun _ _ => rfl⟩

/-- The file that an input gives another content. -/
def changed (s : Session) (input : Input) : Option String :=
  (s.written input).filter fun name => (s.step input).2.files.get? name ≠ s.files.get? name

/-- The files that may be others without the unmarked input: those it changes, until marked input writes them. -/
def touch (s : Session) (touched : List String) (input : Input) : Bool → List String
  | false => (s.changed input).toList ++ touched
  | true => touched.filter fun name => s.written input ≠ some name

theorem get?_step_of_unchanged {name : String} (h : s.changed input ≠ some name) :
    (s.step input).2.files.get? name = s.files.get? name := by
  obtain ⟨target, content, hfiles⟩ := files_step s.console input
  obtain ⟨hw, hget⟩ := hfiles s.files
  by_cases ht : target = some name
  · refine Decidable.byContradiction fun hne => h ?_
    exact Option.filter_eq_some_iff.2 ⟨hw.trans ht, decide_eq_true hne⟩
  · exact (hget name).trans (if_neg ht)

/-- Quiet input that only one of two sessions is given. -/
theorem Agree.alone (h : Agree touched s s') (hq : s.isQuiet input = true) :
    Agree (s.touch touched input false) (s.step input).2 s' := by
  refine ⟨(console_step_quiet hq).trans h.console_eq, fun name hn => ?_⟩
  obtain ⟨hchanged, hname⟩ := not_or.1 (mt List.mem_append.2 hn)
  exact (get?_step_of_unchanged fun hc => hchanged (Option.mem_toList.2 hc)).trans (h.get?_eq name hname)

/-- Input that both sessions are given and that reads none of the files they differ in. -/
theorem Agree.both (h : Agree touched s s') (hr : ∀ name ∈ touched, input.reads ≠ some name) :
    (s.step input).1 = (s'.step input).1 ∧
      Agree (s.touch touched input true) (s.step input).2 (s'.step input).2 := by
  have hread : ∀ name, input.reads = some name → s.files.get? name = s'.files.get? name := fun name hn =>
    h.get?_eq name fun ht => hr name ht hn
  obtain ⟨hseen, hconsole⟩ := step_congr h.console_eq hread
  obtain ⟨target, content, hfiles⟩ := files_step s.console input
  obtain ⟨hw, hget⟩ := hfiles s.files
  have hget' := (hfiles s'.files).2
  rw [h.console_eq] at hget'
  refine ⟨hseen, hconsole, fun name hn => (hget name).trans (Eq.trans ?_ (hget' name).symm)⟩
  by_cases ht : target = some name
  · rw [if_pos ht, if_pos ht]
  · rw [if_neg ht, if_neg ht]
    refine h.get?_eq name fun hm => hn (List.mem_filter.2 ⟨hm, ?_⟩)
    exact decide_eq_true (hw ▸ ht)

/-! ### Runs -/

/-- The files that may be others at the end. -/
def touchedBy (s : Session) (touched : List String) : List (Input × Bool) → List String
  | [] => touched
  | (input, mark) :: plan => (s.step input).2.touchedBy (s.touch touched input mark) plan

/-- Only input that is quiet when its turn comes is not marked. -/
def omitsQuiet (s : Session) : List (Input × Bool) → Bool
  | [] => true
  | (input, mark) :: plan => (mark || s.isQuiet input) && (s.step input).2.omitsQuiet plan

/-- No marked input reads a file that may be another without the unmarked input before it. -/
def readsUntouched (s : Session) (touched : List String) : List (Input × Bool) → Bool
  | [] => true
  | (input, mark) :: plan =>
    (!mark || touched.all (input.reads ≠ some ·)) && (s.step input).2.readsUntouched (s.touch touched input mark) plan

/-- A rendering is written to the file that was asked for, if at all. -/
theorem renders_of_target? {service : Service} {vehicle name : String} {path : Option String} {d : Directory}
    (h : (Console.renderReply service vehicle path).target? d = some name) :
    path.bind Directory.entry? = some name := by
  unfold Console.renderReply at h
  split at h
  · cases h
  · cases h
  · next target _ =>
    cases hl : d.locate target with
    | error fault =>
        simp only [Reply.target?, Option.bind_some, hl] at h
        cases h
    | ok found =>
        simp only [Reply.target?, Option.bind_some, hl] at h
        cases h
        exact Directory.entry?_of_locate hl

/-- Quiet input writes no file but that of a rendering. -/
theorem renders_of_written {name : String} (hq : s.isQuiet input = true) (hw : s.written input = some name) :
    input.renders = some name := by
  cases input with
  | template => cases hw
  | saved | removed => cases hq
  | line text =>
      rw [isQuiet] at hq
      rw [written, Console.interpret] at hw
      rw [Input.renders]
      cases hp : Command.parse text with
      | error fault =>
          rw [hp] at hw
          cases hw
      | ok command =>
          rw [hp] at hq hw
          cases command with
          | status => cases hw
          | register | record | reset | evict => cases hq
          | render vehicle path =>
              have h := renders_of_target? hw
              cases path with
              | none => cases h
              | some path => exact h

/-- It is enough that no template is read from a file that some unmarked line has a rendering written to. -/
theorem readsUntouched_of_apart {plan : List (Input × Bool)} (hq : s.omitsQuiet plan = true)
    (ht : ∀ e ∈ plan, e.2 = true → ∀ name ∈ touched, e.1.reads ≠ some name)
    (h : ∀ e ∈ plan, e.2 = true → ∀ e' ∈ plan, e'.2 = false →
      ∀ name, e.1.reads = some name → e'.1.renders ≠ some name) :
    s.readsUntouched touched plan = true := by
  induction plan generalizing s touched with
  | nil => rfl
  | cons e plan ih =>
      obtain ⟨input, mark⟩ := e
      obtain ⟨hquiet, hplan⟩ := Bool.and_eq_true_iff.1 hq
      obtain ⟨hfirst, hrest⟩ := List.forall_mem_cons.1 ht
      have hapart : ∀ e ∈ plan, e.2 = true → ∀ e' ∈ plan, e'.2 = false →
          ∀ name, e.1.reads = some name → e'.1.renders ≠ some name := fun e he hm e' he' =>
        h e (List.mem_cons_of_mem _ he) hm e' (List.mem_cons_of_mem _ he')
      cases mark with
      | true =>
          refine Bool.and_eq_true_iff.2 ⟨List.all_eq_true.2 fun name hn => decide_eq_true (hfirst rfl name hn), ?_⟩
          exact ih hplan (fun e he hm name hn => hrest e he hm name (List.mem_filter.1 hn).1) hapart
      | false =>
          refine Bool.and_eq_true_iff.2 ⟨rfl, ih hplan (fun e he hm name hn hread => ?_) hapart⟩
          obtain hn | hn := List.mem_append.1 hn
          · have hwritten := (Option.filter_eq_some_iff.1 (Option.mem_toList.1 hn)).1
            have hrenders := renders_of_written hquiet hwritten
            exact h e (List.mem_cons_of_mem _ he) hm _ List.mem_cons_self rfl name hread hrenders
          · exact hrest e he hm name hn hread

/-- A session that is given all input of a plan, and one that is given what is marked. -/
theorem Agree.run (h : Agree touched s s') {plan : List (Input × Bool)} (hq : s.omitsQuiet plan = true)
    (hr : s.readsUntouched touched plan = true) :
    kept ((s.run (plan.map (·.1))).1.zip (plan.map (·.2))) = (s'.run (kept plan)).1 ∧
      Agree (s.touchedBy touched plan) (s.run (plan.map (·.1))).2 (s'.run (kept plan)).2 := by
  induction plan generalizing s s' touched with
  | nil => exact ⟨rfl, h⟩
  | cons e plan ih =>
      obtain ⟨input, mark⟩ := e
      obtain ⟨hquiet, hplan⟩ := Bool.and_eq_true_iff.1 hq
      obtain ⟨hread, hrest⟩ := Bool.and_eq_true_iff.1 hr
      cases mark with
      | false =>
          -- The other session stays where it is.
          exact ih (h.alone hquiet) hplan hrest
      | true =>
          obtain ⟨hfirst, hnext⟩ := h.both fun name hn => of_decide_eq_true (List.all_eq_true.1 hread name hn)
          obtain ⟨hseen, hlast⟩ := ih hnext hplan hrest
          exact ⟨List.cons_eq_cons.2 ⟨hfirst, hseen⟩, hlast⟩

/-- A rendering over a template is noticed when the template is read next. -/
example :
    let plan : List (Input × Bool) := [(.line "register V1", true), (.line "render V1 t.svg", false),
      (.template "t.svg", true)]
    (Catalog.load .standard "<svg><a data-zone='roof'/></svg>").toOption.map (fun catalog =>
      let s : Session :=
        ⟨.start .standard catalog 2, SortedMap.empty.insert "t.svg" "<svg><a data-zone='hood'/></svg>"⟩
      (s.omitsQuiet plan, s.readsUntouched [] plan, (s.run (plan.map (·.1))).2.console.service.catalog.ids,
        (s.run (kept plan)).2.console.service.catalog.ids)) = some (true, false, ["roof"], ["hood"]) := by
  decide +kernel

end Session

end VehicleDamage
