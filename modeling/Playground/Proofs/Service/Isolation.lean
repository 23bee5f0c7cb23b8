import Playground.Proofs.Execution.Alone
import Playground.Proofs.Service.Room

set_option autoImplicit false

/-! # Isolation

Requests arrive, wait, start, go on and are left by their callers, in any order, on one host with
one root for all workspaces. Each of them is answered as if nobody else were there, if it finds its
programs as if nobody else were there (`FindsAsAlone`); it does so if they are found where they are
looked for first (`findsAsAlone_of_first`). Only where the root cannot be made at all, what the
first one leaves on the way may be another reason why the next one fails. -/

namespace Playground.Service

open Plan Machine FileSystem Execution
open Workspace (isStep_new leadsTo_top leads_new_up makeDirectory_past_new pathOf placed_of_leadsTo
  rootFailure)

/-- The answer to a request that is executed alone. -/
def alone (w : World) (id : String) (s : Settings) (fs : FileSystem) (r : Request) : Outcome :=
  match languageOf r with
  | .found l => w.run id fs (execution s l r)
  | .undetected => undetected

/-- Whatever others may have made, the execution of a request finds its programs as it does
    alone. -/
def FindsAsAlone (w : World) (ids : Nat → String) (s : Settings) (fs : FileSystem) (ticket : Nat)
    (r : Request) : Prop :=
  ∀ l, languageOf r = .found l →
    LooksUpAsAlone w ids s.workspaceRoot fs ticket (execution s l r)

variable {w : World} {ids : Nat → String} {s : Settings} {fs g g' : FileSystem} {a b : Room}
  {ground ground' : Ground} {ticket : Nat} {old job : Job} {id : String} {finds : Prop}
  {r : Request}

theorem maxConcurrent_pos_of_start {v : Service} (h : start s = .ready v) :
    0 < s.maxConcurrent := by
  unfold start at h
  cases hs : s.validate with
  | error f =>
      rw [hs] at h
      cases h
  | ok t => exact Nat.pos_of_ne_zero ((Settings.validate_eq_ok_iff s t).1 hs).2.1

/-- A service that gets one request only answers it so. -/
theorem exists_answered_alone {v : Service} (hstart : start s = .ready v) (r : Request) :
    ∃ b, Relation.ReflTransGen (Room.Moves w ids) ⟨v, fs, []⟩ b ∧ b.arrived = [r] ∧
      b.service.outcome? 0 = some (alone w (ids 0) s fs r) := by
  have hpos := maxConcurrent_pos_of_start hstart
  obtain rfl := eq_of_start hstart
  obtain ⟨slots, hslots⟩ := Nat.exists_eq_add_one.2 hpos
  let first : Room := ⟨⟨s, s.maxConcurrent, []⟩, fs, []⟩
  cases hl : languageOf r with
  | undetected =>
      refine ⟨_, .single (.arrive first r), rfl, ?_⟩
      simp only [submit, hl, alone]
      rfl
  | found l =>
      let granted : Room := ⟨⟨s, slots, [⟨r, true, .granted l⟩]⟩, fs, [r]⟩
      have harrive : first.service.submit r = ⟨s, slots + 1, [⟨r, true, .waiting l⟩]⟩ := by
        simp only [submit, hl, first, hslots, List.nil_append]
      have hmoves : Relation.ReflTransGen (Room.Moves w ids) first
          { granted with service := granted.service.begin 0 } := by
        refine .head (.arrive first r) ?_
        rw [harrive]
        exact .head (.stage (.grant _)) (.single (.stage (.begin granted 0)))
      obtain ⟨b, hstages, hjobs, harrived⟩ :=
        @exists_answered_of_advance w ids granted 0 _ rfl (execution s l r) []
      refine ⟨b, hmoves.trans (moves_of_stages hstages), harrived, ?_⟩
      rw [outcome?, hjobs, alone, hl]
      rfl

/-- What is promised of a room whose files were given at first. -/
structure Room.Isolates (w : World) (ids : Nat → String) (s : Settings) (fs : FileSystem)
    (a : Room) : Prop where
  /-- A ticket stands for the request that came as this one. -/
  requests : a.service.jobs.map Job.request = a.arrived
  /-- The answer to a request is the one that it gets alone, if what others make does not change
      which programs it finds. -/
  answered : ∀ ticket outcome, a.service.outcome? ticket = some outcome →
    ∃ r, a.arrived[ticket]? = some r ∧ (FindsAsAlone w ids s fs ticket r →
      IsLike s.workspaceRoot outcome (alone w (ids ticket) s fs r))
  /-- Nobody waits forever: the service can go on until all are answered whose callers are there. -/
  finishes : ∃ b, Relation.ReflTransGen (Room.Stage w ids) a b ∧ b.arrived = a.arrived ∧
    ∀ ticket job, a.service.jobs[ticket]? = some job → job.isAwaited = true →
      ∃ outcome, b.service.outcome? ticket = some outcome

/-! ## What every move keeps -/

/-- A request is on its way to an answer, and to the one that it gets alone if it finds its
    programs. -/
def IsFollowed (w : World) (s : Settings) (fs : FileSystem) (ground : Ground) (id : String)
    (g : FileSystem) (finds : Prop) (job : Job) : Prop :=
  match job.progress with
  | .waiting l => languageOf job.request = .found l ∧ ground.IsClear id g
  | .granted l => languageOf job.request = .found l ∧ ground.IsClear id g
  | .executing p _ => ∃ l phase, languageOf job.request = .found l ∧
      Phased s.workspaceRoot (Toolchain.ofSettings s l) (IsEnd s.workspaceRoot) phase p ∧
      Follows w s.workspaceRoot fs ground id g finds (execution s l job.request) phase p
  | .answered outcome => finds → IsLike s.workspaceRoot outcome (alone w id s fs job.request)
  | .withdrawn => True

/-- What every move keeps, on the ground that the workspaces are on. -/
structure Room.IsSound (w : World) (ids : Nat → String) (s : Settings) (fs : FileSystem)
    (a : Room) (ground : Ground) : Prop where
  settings : a.service.settings = s
  requests : a.service.jobs.map Job.request = a.arrived
  stands : ground.Holds w ids s.workspaceRoot fs a.files
  jobs : ∀ ticket job, a.service.jobs[ticket]? = some job →
    IsFollowed w s fs ground (ids ticket) a.files (FindsAsAlone w ids s fs ticket job.request) job
  others : ∀ ticket, a.service.jobs.length ≤ ticket → ground.IsClear (ids ticket) a.files

theorem IsFollowed.of_leaves {id' : String} (hne : id' ≠ id) (hl : Leaves id ground g ground' g')
    (h : IsFollowed w s fs ground id' g finds job) :
    IsFollowed w s fs ground' id' g' finds job := by
  obtain ⟨r, isAwaited, progress⟩ := job
  cases progress with
  | waiting l => exact ⟨h.1, h.2.of_leaves hne hl⟩
  | granted l => exact ⟨h.1, h.2.of_leaves hne hl⟩
  | executing p owned =>
      obtain ⟨l, phase, hlanguage, hphased, hfollows⟩ := h
      exact ⟨l, phase, hlanguage, hphased, hfollows.of_leaves hne hl⟩
  | answered outcome => exact h
  | withdrawn => trivial

/-- One job is replaced, while its execution leaves the others alone. -/
theorem Room.IsSound.replace (h : a.IsSound w ids s fs ground) (hids : Function.Injective ids)
    (hold : a.service.jobs[ticket]? = some old) {new : Job} (hrequest : new.request = old.request)
    {slots : Nat} (hground : ground'.Holds w ids s.workspaceRoot fs g')
    (hleaves : Leaves (ids ticket) ground a.files ground' g')
    (hnew : IsFollowed w s fs ground' (ids ticket) g' (FindsAsAlone w ids s fs ticket new.request)
      new) :
    Room.IsSound w ids s fs
      ⟨{ a.service with slots := slots, jobs := a.service.jobs.set ticket new }, g', a.arrived⟩
      ground' where
  settings := h.settings
  requests := by
    rw [← h.requests, List.map_set, hrequest]
    have hmap : (a.service.jobs.map Job.request)[ticket]? = some old.request := by
      rw [List.getElem?_map, hold, Option.map_some]
    obtain ⟨hlength, hget⟩ := List.getElem?_eq_some_iff.1 hmap
    rw [← hget, List.set_getElem_self]
  stands := hground
  jobs t job hjob := by
    by_cases ht : t = ticket
    · subst ht
      rw [List.getElem?_set_self (List.getElem?_eq_some_iff.1 hold).1] at hjob
      cases hjob
      exact hnew
    · -- another ticket has another identifier, so its execution is not concerned
      rw [List.getElem?_set_ne (Ne.symm ht)] at hjob
      exact (h.jobs t job hjob).of_leaves (fun he => ht (hids he)) hleaves
  others t ht := by
    rw [List.length_set] at ht
    have hticket := (List.getElem?_eq_some_iff.1 hold).1
    exact (h.others t ht).of_leaves (fun he => by have := hids he; omega) hleaves

/-- An execution takes up a plan. -/
theorem Room.IsSound.advance (h : a.IsSound w ids s fs ground) (hids : Function.Injective ids)
    (hjob : a.service.jobs[ticket]? = some job) {plan : Plan Outcome} {owned : List String}
    {l : Language} {phase : Phase} (hlanguage : languageOf job.request = .found l)
    (hground : ground'.Holds w ids s.workspaceRoot fs g')
    (hleaves : Leaves (ids ticket) ground a.files ground' g')
    (hphased : Phased s.workspaceRoot (Toolchain.ofSettings s l) (IsEnd s.workspaceRoot) phase plan)
    (hfollows : Follows w s.workspaceRoot fs ground' (ids ticket) g'
      (FindsAsAlone w ids s fs ticket job.request) (execution s l job.request) phase plan) :
    Room.IsSound w ids s fs ⟨a.service.advance ticket job plan owned, g', a.arrived⟩ ground' := by
  cases plan with
  | done outcome =>
      refine h.replace hids hjob ?_ hground hleaves ?_
      · rfl
      · intro hfinds
        rw [alone, hlanguage]
        exact isLike_of_done hphased hfollows hfinds
  | ask action next =>
      refine h.replace hids hjob ?_ hground hleaves ?_
      · rfl
      · exact ⟨l, phase, hlanguage, hphased, hfollows⟩

/-! ### The moves, one by one -/

theorem Room.IsSound.submit (h : a.IsSound w ids s fs ground) (r : Request) :
    Room.IsSound w ids s fs
      { a with service := a.service.submit r, arrived := a.arrived ++ [r] } ground := by
  have hcases : ∃ progress, a.service.submit r =
      { a.service with jobs := a.service.jobs ++ [⟨r, true, progress⟩] } ∧
      ∀ id, ground.IsClear id a.files →
        ∀ finds, IsFollowed w s fs ground id a.files finds ⟨r, true, progress⟩ := by
    unfold Service.submit
    cases hl : languageOf r with
    | found l => exact ⟨.waiting l, rfl, fun id hclear _ => ⟨hl, hclear⟩⟩
    | undetected =>
        refine ⟨.answered undetected, rfl, fun id _ _ _ => .inl ?_⟩
        rw [alone, hl]
  obtain ⟨progress, hsubmit, hfollowed⟩ := hcases
  rw [hsubmit]
  refine ⟨h.settings, ?_, h.stands, fun ticket job hjob => ?_, fun ticket ht => ?_⟩
  · rw [List.map_append, h.requests]
    rfl
  · rcases Nat.lt_or_ge ticket a.service.jobs.length with hlt | hge
    · rw [List.getElem?_append_left hlt] at hjob
      exact h.jobs ticket job hjob
    · rw [List.getElem?_append_right hge] at hjob
      obtain rfl := List.mem_singleton.1 (List.mem_of_getElem? hjob)
      exact hfollowed _ (h.others ticket hge) _
  · rw [List.length_append] at ht
    exact h.others ticket (by omega)

theorem Room.IsSound.grant (h : a.IsSound w ids s fs ground) (hids : Function.Injective ids) :
    Room.IsSound w ids s fs { a with service := a.service.grant } ground := by
  unfold Service.grant
  split
  · split
    · next r isAwaited l hjob =>
        have hfollowed := h.jobs _ _ hjob
        refine h.replace hids hjob ?_ h.stands (.nothing _ _) ?_
        · rfl
        · exact hfollowed
    · exact h
  · exact h

theorem Room.IsSound.leave (h : a.IsSound w ids s fs ground) (hids : Function.Injective ids)
    (ticket : Nat) :
    Room.IsSound w ids s fs { a with service := a.service.leave ticket } ground := by
  unfold Service.leave
  split
  · next r isAwaited l hjob =>
      refine h.replace hids hjob ?_ h.stands (.nothing _ _) ?_
      · rfl
      · trivial
  · next r isAwaited l hjob =>
      refine h.replace hids hjob ?_ h.stands (.nothing _ _) ?_
      · rfl
      · trivial
  · next job hjob =>
      have hfollowed := h.jobs _ _ hjob
      refine h.replace hids hjob ?_ h.stands (.nothing _ _) ?_
      · rfl
      · exact hfollowed
  · exact h

theorem Room.IsSound.begin (h : a.IsSound w ids s fs ground) (hids : Function.Injective ids)
    (ticket : Nat) :
    Room.IsSound w ids s fs { a with service := a.service.begin ticket } ground := by
  unfold Service.begin
  split
  · next r isAwaited l hjob =>
      obtain ⟨hlanguage, hclear⟩ := h.jobs _ _ hjob
      rw [h.settings]
      exact h.advance hids hjob hlanguage h.stands (.nothing _ _) (phased_execution s l r)
        ⟨hclear, fun _ => .start⟩
  · exact h

theorem Room.IsSound.reply (h : a.IsSound w ids s fs ground) (ht : fs.IsTree)
    (hids : Function.Injective ids) (hplain : ∀ ticket, '/' ∉ (ids ticket).toList)
    {action : Action} (hasked : a.service.asked ticket = some action) :
    ∃ ground', Room.IsSound w ids s fs { a with
      service := a.service.reply ticket fun action => (w.serve (ids ticket) a.files action).1
      files := (w.serve (ids ticket) a.files action).2 } ground' := by
  obtain ⟨r, isAwaited, next, owned, hjob⟩ := exists_of_asked hasked
  obtain ⟨l, phase, hlanguage, hphased, hfollows⟩ := h.jobs _ _ hjob
  obtain ⟨ground', hstands, hleaves, hfollows'⟩ :=
    hfollows.goesOn ht rfl (fun hfinds => hfinds l hlanguage) (hplain ticket) h.stands hphased
  refine ⟨ground', ?_⟩
  simp only [Service.reply, proceed, hjob]
  exact h.advance hids hjob hlanguage hstands hleaves (hphased.2 _) hfollows'

/-- Every move keeps what is sound. -/
theorem Room.IsSound.moves (h : ∃ ground, a.IsSound w ids s fs ground) (ht : fs.IsTree)
    (hids : Function.Injective ids) (hplain : ∀ ticket, '/' ∉ (ids ticket).toList)
    (hm : Relation.ReflTransGen (Room.Moves w ids) a b) :
    ∃ ground, b.IsSound w ids s fs ground := by
  induction hm with
  | refl => exact h
  | tail _ hmove ih =>
      obtain ⟨ground, hb⟩ := ih
      cases hmove with
      | arrive r => exact ⟨ground, hb.submit r⟩
      | leave ticket => exact ⟨ground, hb.leave hids ticket⟩
      | stage hstage =>
          cases hstage with
          | grant => exact ⟨ground, hb.grant hids⟩
          | begin ticket => exact ⟨ground, hb.begin hids ticket⟩
          | reply ticket action hasked => exact hb.reply ht hids hplain hasked

/-! ## What is promised -/

/-- Executions do not interfere: however they come between each other, each request that finds its
    programs as it does alone is answered as it is when it is alone, but for the reason why a root
    that goes up could not be made. -/
theorem isolates_of_moves {v : Service} (hstart : start s = .ready v) (ht : fs.IsTree)
    (hids : Function.Injective ids) (hplain : ∀ ticket, '/' ∉ (ids ticket).toList)
    (hm : Relation.ReflTransGen (Room.Moves w ids) ⟨v, fs, []⟩ a) : a.Isolates w ids s fs := by
  obtain rfl := eq_of_start hstart
  have hfirst : Room.IsSound w ids s fs ⟨⟨s, s.maxConcurrent, []⟩, fs, []⟩ .untouched :=
    ⟨rfl, rfl, rfl, fun _ _ hjob => by simp at hjob, fun _ _ => trivial⟩
  obtain ⟨ground, hsound⟩ := Room.IsSound.moves ⟨.untouched, hfirst⟩ ht hids hplain hm
  refine ⟨hsound.requests, fun ticket outcome houtcome => ?_, ?_⟩
  · obtain ⟨job, hjob, hanswer⟩ := Option.bind_eq_some_iff.1 houtcome
    refine ⟨job.request, by rw [← hsound.requests, List.getElem?_map, hjob]; rfl, ?_⟩
    have hfollowed := hsound.jobs ticket job hjob
    obtain ⟨r, isAwaited, progress⟩ := job
    cases progress with
    | answered outcome' =>
        cases hanswer
        exact hfollowed
    | _ => cases hanswer
  · exact exists_finished (IsOrderly.moves (fun _ hmem => by cases hmem) hm)
      (maxConcurrent_pos_of_start hstart) (exists_admits ⟨[], admits_start s⟩ hm)

/-- Under an absolute root a request finds its programs as it does alone, if the tools of its
    language are there where they are looked for first. -/
theorem findsAsAlone_of_first (habs : Path.isAbsolute s.workspaceRoot = true)
    (hfirst : ∀ l, languageOf r = .found l →
      ∀ tool ∈ (Toolchain.ofSettings s l).requiredTools, w.FindsFirst fs tool) :
    FindsAsAlone w ids s fs ticket r :=
  fun l hl => looksUpAsAlone_of_first habs (phased_execution s l r) (hfirst l hl)

/-! ## Two requests -/

/-- One `7` for the first ticket, and one more for each that follows. -/
def sevens (ticket : Nat) : String := String.ofList (List.replicate (ticket + 1) '7')

theorem sevens_injective : Function.Injective sevens := by
  intro m n h
  have hlength := congrArg List.length (String.ofList_injective h)
  rw [List.length_replicate, List.length_replicate] at hlength
  omega

theorem not_mem_sevens (ticket : Nat) : '/' ∉ (sevens ticket).toList := by
  rw [sevens, String.toList_ofList]
  exact fun h => absurd (List.eq_of_mem_replicate h) (by decide)

/-- A world in which each child says `hi` and leaves a file. -/
def greeting : World where
  here := []
  searchPath := ["/bin"]
  child _ _ _ :=
    (.ok ⟨1, some (0, .exited 0), ⟨[104, 105], some 0⟩, ⟨[], some 0⟩, some 0, none⟩,
      some ⟨0o700, [(["out"], ⟨.file [], 0o644⟩)]⟩)

/-- The files of a host with tools for two languages, and more. -/
def withTools (more : List (Location × Node)) : FileSystem :=
  ⟨[([], ⟨.directory, 0o755⟩), (["bin"], ⟨.directory, 0o755⟩),
    (["bin", "python3"], ⟨.file [], 0o755⟩), (["bin", "g++"], ⟨.file [], 0o755⟩)] ++ more, []⟩

/-- The path of a tool leads to it. -/
theorem isExecutable_withTools (more : List (Location × Node)) (name : String)
    {path : String} (hfits : path ≠ "" ∧ path.utf8ByteSize ≤ maxPathSize)
    (hends : Path.endsInSlash path = false)
    (hnames : Path.names path = ["bin", name]) (hstep : IsStep name)
    (hn : (withTools more).node? ["bin", name] = some ⟨.file [], 0o755⟩) :
    (withTools more).isExecutable [] path = true := by
  have horigin : origin [] path = [] := ite_self _
  have hlink : (withTools more).linkAt? ["bin", name] = none :=
    linkAt?_eq_none_of_isProgram hn rfl
  have hleads : Leads (withTools more) maxLinks [] ["bin", name] maxLinks ["bin", name] :=
    .down rfl ⟨by decide, by decide, by decide⟩ rfl (.down rfl hstep hlink .nil)
  exact isExecutable_iff.2
    ⟨_, _, findsProgram_of_leads hfits.1 hfits.2 hends (by rwa [horigin, hnames]) hn rfl⟩

theorem isExecutable_python (more : List (Location × Node)) :
    (withTools more).isExecutable [] "/bin/python3" = true :=
  isExecutable_withTools more "python3" (by decide) (by decide) (by decide)
    ⟨by decide, by decide, by decide⟩ rfl

theorem isExecutable_cpp (more : List (Location × Node)) :
    (withTools more).isExecutable [] "/bin/g++" = true :=
  isExecutable_withTools more "g++" (by decide) (by decide) (by decide)
    ⟨by decide, by decide, by decide⟩ rfl

theorem serve_locate_python {more : List (Location × Node)} (hw : Within (withTools more) g) :
    greeting.serve id g (.locate "python3") = (some "/bin/python3", g) :=
  serve_locate_eq (locateProgram_of_first (by decide) (isExecutable_python more) hw)

def printing : Request := .inLanguage .python "print(1)"

/-- A request for Python finds its programs as it does alone. -/
theorem findsAsAlone_printing (more : List (Location × Node)) (ticket : Nat)
    (habs : Path.isAbsolute s.workspaceRoot = true) (hs : s.pythonInterpreter = "python3") :
    FindsAsAlone greeting sevens s (withTools more) ticket printing := by
  refine findsAsAlone_of_first habs fun l hl tool htool => ?_
  obtain rfl : Language.python = l := by cases hl; rfl
  obtain rfl : tool = "python3" := (List.mem_singleton.1 htool).trans hs
  exact ⟨"/bin/python3", by decide, isExecutable_python more⟩

/-- Two requests each of which has a slot. The second one is to be answered by Python. -/
def asking (s : Settings) (fs : FileSystem) (l : Language) : Room where
  service := ⟨s, 8,
    [⟨.inLanguage l "print(1)", true, .granted l⟩, ⟨printing, true, .granted .python⟩]⟩
  files := fs
  arrived := [.inLanguage l "print(1)", printing]

theorem moves_asking (s : Settings) (fs : FileSystem) (l : Language) :
    Relation.ReflTransGen (Room.Moves greeting sevens) ⟨⟨s, 10, []⟩, fs, []⟩ (asking s fs l) :=
  .head (.arrive _ (.inLanguage l "print(1)")) <|
    .head (.arrive _ printing) <|
    .head (.stage (.grant _)) <| .single (.stage (.grant _))

/-- What is left to do when the root is there: the workspace is made, and the child says `hi`. -/
theorem serves_greeting (program code : String) {id root : String} {l : Location}
    (hplaced : Placed fs [] (pathOf root id) l) (hn : fs.node? l = none) (ho : fs.obstacle l = none)
    (hnul : hasNul (pathOf root id) = false)
    (hlaunch : holdsNul ⟨program, ["-c", code], pathOf root id, none⟩ = false) :
    let made := fs.put l ⟨.directory, 0o700⟩
    greeting.serve id fs (.createPrivate (pathOf root id)) = (.ok (), made) ∧ Within fs made ∧
      greeting.serve id made
          (.watch ⟨program, ["-c", code], pathOf root id, none⟩ (.ofSeconds 5)) =
        (.ok ⟨1, some (0, .exited 0), ⟨[104, 105], some 0⟩, ⟨[], some 0⟩, some 0, none⟩,
          made.replant l (some ⟨0o700, [(["out"], ⟨.file [], 0o644⟩)]⟩)) := by
  intro made
  have hwithin : Within fs made := (grows_put hn (directoryFault_of_obstacle ho)).within
  have hfind : made.find greeting.here (pathOf root id) true = .ok (l, ⟨.directory, 0o700⟩) :=
    find_eq_ok_iff.2 ⟨(hplaced.mono hwithin).locate_follow_eq
      (linkAt?_eq_none_of_directory node?_put_self), node?_put_self⟩
  refine ⟨?_, hwithin, ?_⟩
  · rw [serve_createPrivate, guarded, if_neg (by simp [hnul])]
    exact congrArg (settle _) (hplaced.makeDirectory_eq hn ho)
  · rw [World.serve, World.watch, if_neg (by simp [hlaunch]), hfind]
    rfl

/-- Files with tools and a place for workspaces. -/
def withPlace : FileSystem := withTools [(["tmp"], ⟨.directory, 0o755⟩)]

/-- Two requests are executed at the same time, and the first one is answered. -/
theorem isolates_of_moves_two :
    withPlace.IsTree ∧ Function.Injective sevens ∧ (∀ ticket, '/' ∉ (sevens ticket).toList) ∧
      ∃ a, Relation.ReflTransGen (Room.Moves greeting sevens)
          ⟨⟨.default, 10, []⟩, withPlace, []⟩ a ∧
        a.Isolates greeting sevens .default withPlace ∧
        FindsAsAlone greeting sevens .default withPlace 0 printing ∧
        a.service.outcome? 0 = some (.success "hi") := by
  have hleads : LeadsTo withPlace [] "/tmp" ["tmp"] :=
    leadsTo_top (by decide) ⟨by decide, by decide, by decide⟩ rfl rfl
  have hplaced : Placed withPlace [] (pathOf "/tmp" "7") ["tmp", "polyglot-7"] :=
    placed_of_leadsTo (by decide) hleads rfl (by decide) (by decide)
  have hlocate (ticket : Nat) : greeting.serve (sevens ticket) withPlace (.locate "python3") =
      (some "/bin/python3", withPlace) := serve_locate_python (.refl _)
  have hroot (ticket : Nat) : greeting.serve (sevens ticket) withPlace (.createTree "/tmp") =
      (.ok (), withPlace) :=
    serve_createTree_eq (by decide) (createTree_of_leadsTo (by decide) (by decide) hleads rfl)
  obtain ⟨hmake, hwithin, hwatch⟩ :=
    serves_greeting "/bin/python3" "print(1)" hplaced rfl rfl (by decide) (by decide)
  have hlocate' : greeting.serve "7" _ (.locate "python3") = (some "/bin/python3", _) :=
    serve_locate_python hwithin
  have hm := (moves_asking .default withPlace .python).tail (.stage (.begin _ 0))
    |>.tail (.stage (stage_of_serve 0 rfl (hlocate 0)))
    |>.tail (.stage (.begin _ 1))
    |>.tail (.stage (stage_of_serve 1 rfl (hlocate 1)))
    |>.tail (.stage (stage_of_serve 0 rfl rfl))
    |>.tail (.stage (stage_of_serve 1 rfl rfl))
    |>.tail (.stage (stage_of_serve 0 rfl (hroot 0)))
    |>.tail (.stage (stage_of_serve 1 rfl (hroot 1)))
    |>.tail (.stage (stage_of_serve 0 rfl hmake))
    |>.tail (.stage (stage_of_serve 0 rfl hlocate'))
    |>.tail (.stage (stage_of_serve 0 rfl hwatch))
    |>.tail (.stage (stage_of_serve 0 rfl rfl))
    |>.tail (.stage (stage_of_serve 0 rfl rfl))
  refine ⟨by decide, sevens_injective, not_mem_sevens, _, hm, ?_,
    findsAsAlone_printing _ 0 (by decide) rfl, rfl⟩
  exact isolates_of_moves rfl (by decide) sevens_injective not_mem_sevens hm

/-! ## Two requests that are not as they are alone -/

/-! ### A root that goes up -/

/-- Settings whose root leads up from a directory that may be missing. -/
def upThroughFile : Settings := { Settings.default with workspaceRoot := "/new/../a/b" }

/-- A host with a file where the root would be in. -/
def oneFile : FileSystem := withTools [(["a"], ⟨.file [], 0o644⟩)]

def oneFileLater : FileSystem := oneFile.put ["new"] ⟨.directory, 0o755⟩

theorem within_oneFileLater : Within oneFile oneFileLater := (grows_put rfl rfl).within

theorem ancestors_upThroughFile : ancestors "/new/../a/b" =
    ["/new/../a/b", "/new/../a", "/new/..", "/new", "/"] := by decide

theorem names_inFile : Path.names "/new/../a" = ["new", "..", "a"] := by decide

theorem names_upThroughFile : Path.names "/new/../a/b" = ["new", "..", "a", "b"] := by decide

/-- The first who tries to make the root makes a directory on the way, and finds the file. -/
theorem createTree_oneFile :
    oneFile.createTree [] "/new/../a/b" 0o755 = (.error .alreadyExists, oneFileLater) := by
  have hroot : oneFile.makeDirectory [] "/new/../a/b" 0o755 = .error .notFound :=
    makeDirectory_past_new (by decide) (by decide) names_upThroughFile rfl rfl
  have hin : oneFile.makeDirectory [] "/new/../a" 0o755 = .error .notFound :=
    makeDirectory_past_new (by decide) (by decide) names_inFile rfl rfl
  have hup : oneFile.makeTree [] 0o755 ["/new/..", "/new", "/"] = (.ok (), oneFileLater) :=
    Workspace.makeTree_new_up rfl rfl rfl
  -- the directory made on the way lets the path get as far as the file
  have hplaced : Placed oneFileLater [] "/new/../a" ["a"] :=
    ⟨by decide, by decide, by decide, ["new", ".."], "a", maxLinks, [], names_inFile,
      ⟨by decide, by decide, by decide⟩, leads_new_up rfl rfl .nil, rfl, rfl⟩
  have hin' : oneFileLater.makeDirectory [] "/new/../a" 0o755 = .error .alreadyExists := by
    rw [FileSystem.makeDirectory, make, hplaced.locateNew_eq]
    rfl
  have hisIn : oneFileLater.isDirectory [] "/new/../a" = false := by
    rw [isDirectory, find, hplaced.locate_follow_eq rfl]
    rfl
  have hfile : oneFile.makeTree [] 0o755 ["/new/../a", "/new/..", "/new", "/"] =
      (.error .alreadyExists, oneFileLater) := by
    rw [makeTree, if_neg (by decide), hin]
    simp only [hup, hin', notMade, hisIn]
    rfl
  rw [createTree, ancestors_upThroughFile, makeTree, if_neg (by decide), hroot]
  simp only [hfile]

/-- The second one finds that the file is no directory. -/
theorem createTree_oneFileLater :
    oneFileLater.createTree [] "/new/../a/b" 0o755 = (.error .notADirectory, oneFileLater) := by
  have hleads : Leads oneFileLater maxLinks [] ["new", "..", "a"] maxLinks ["a"] :=
    leads_new_up rfl rfl (.down rfl ⟨by decide, by decide, by decide⟩ rfl .nil)
  have hlocate (follow : Bool) :
      oneFileLater.locateNew [] "/new/../a/b" follow = .error .notADirectory := by
    have hwalk : oneFileLater.walk follow maxLinks [] ["new", "..", "a", "b"] =
        oneFileLater.walk follow maxLinks ["a"] ["b"] := hleads.walk_append (.inl (by simp))
    rw [locateNew, if_neg (by decide), if_neg (by decide), if_pos (by decide), names_upThroughFile,
      hwalk, walk]
    rfl
  have hroot : oneFileLater.makeDirectory [] "/new/../a/b" 0o755 = .error .notADirectory := by
    rw [FileSystem.makeDirectory, make, hlocate]
  have hisRoot : oneFileLater.isDirectory [] "/new/../a/b" = false := by
    rw [isDirectory, find, locate_eq_locateNew (by decide), hlocate]
  rw [createTree, ancestors_upThroughFile, makeTree_of_error (by decide) hroot (by decide), notMade,
    hisRoot]
  rfl

/-! ### A tool behind the root -/

/-- Settings with an interpreter that is found when the root has been made. -/
def behindRoot : Settings :=
  { Settings.default with
    workspaceRoot := "/new"
    pythonInterpreter := "/new/../bin/python3" }

def onlyTools : FileSystem := withTools []

def onlyToolsLater : FileSystem := onlyTools.put ["new"] ⟨.directory, 0o755⟩

theorem names_behindRoot : Path.names "/new/../bin/python3" = ["new", "..", "bin", "python3"] := by
  decide

theorem lookUp_behindRoot : greeting.lookUp onlyTools "/new/../bin/python3" = none := by
  have hwalk : onlyTools.walk true maxLinks [] ["new", "..", "bin", "python3"] =
      .error .notFound := by
    rw [walk_down rfl isStep_new rfl, walk]
    rfl
  have hfind : onlyTools.find [] "/new/../bin/python3" true = .error .notFound := by
    rw [find, locate_eq_locateNew (by decide), locateNew, if_neg (by decide), if_neg (by decide),
      if_pos (by decide), names_behindRoot, hwalk]
  have hcandidates : candidates [] ["/bin"] "/new/../bin/python3" = ["/new/../bin/python3"] := by
    decide
  simp [World.lookUp, locateProgram, greeting, hcandidates, isExecutable, hfind]

theorem lookUp_behindRoot_later :
    greeting.lookUp onlyToolsLater "/new/../bin/python3" = some "/new/../bin/python3" := by
  have hleads : Leads onlyToolsLater maxLinks [] ["new", "..", "bin", "python3"] maxLinks
      ["bin", "python3"] :=
    leads_new_up rfl rfl (.down rfl ⟨by decide, by decide, by decide⟩ rfl
      (.down rfl ⟨by decide, by decide, by decide⟩ rfl .nil))
  have hfinds : FindsProgram onlyToolsLater [] "/new/../bin/python3" ["bin", "python3"]
      ⟨.file [], 0o755⟩ :=
    findsProgram_of_leads (by decide) (by decide) (by decide) (names_behindRoot ▸ hleads) rfl rfl
  exact locateProgram_of_first (by decide) (isExecutable_iff.2 ⟨_, _, hfinds⟩) (.refl _)

theorem createTree_onlyTools :
    onlyTools.createTree [] "/new" 0o755 = (.ok (), onlyToolsLater) := by
  have hplaced : Placed onlyTools [] "/new" ["new"] :=
    ⟨by decide, by decide, by decide, [], "new", maxLinks, [], by decide, isStep_new, .nil, rfl,
      rfl⟩
  have hancestors : ancestors "/new" = ["/new", "/"] := by decide
  rw [createTree, hancestors, makeTree, if_neg (by decide), hplaced.makeDirectory_eq rfl rfl]
  rfl

/-! ### What comes of them -/

/-- A request that came among others is answered otherwise than alone. -/
structure IsAnsweredOtherwise (s : Settings) (fs : FileSystem) (ticket : Nat) (r : Request)
    (outcome expected : Outcome) : Prop where
  tree : fs.IsTree
  starts : start s = .ready ⟨s, s.maxConcurrent, []⟩
  answered : ∃ a, Relation.ReflTransGen (Room.Moves greeting sevens)
      ⟨⟨s, s.maxConcurrent, []⟩, fs, []⟩ a ∧
    a.arrived[ticket]? = some r ∧ a.service.outcome? ticket = some outcome
  alone_eq : alone greeting (sevens ticket) s fs r = expected
  ne : outcome ≠ expected

/-- The second one fails for another reason. -/
theorem isAnsweredOtherwise_upThroughFile :
    IsAnsweredOtherwise upThroughFile oneFile 1 printing
      (.ofFailure (rootFailure upThroughFile.workspaceRoot .notADirectory))
      (.ofFailure (rootFailure upThroughFile.workspaceRoot .alreadyExists)) := by
  have hlocate (ticket : Nat) : greeting.serve (sevens ticket) oneFile (.locate "python3") =
      (some "/bin/python3", oneFile) := serve_locate_python (.refl _)
  have hlocateLater : greeting.serve (sevens 1) oneFileLater (.locate "python3") =
      (some "/bin/python3", oneFileLater) :=
    serve_locate_python within_oneFileLater
  have hfirst (ticket : Nat) : greeting.serve (sevens ticket) oneFile (.createTree "/new/../a/b") =
      (.error .alreadyExists, oneFileLater) := serve_createTree_eq (by decide) createTree_oneFile
  have hsecond (ticket : Nat) : greeting.serve (sevens ticket) oneFileLater
      (.createTree "/new/../a/b") = (.error .notADirectory, oneFileLater) :=
    serve_createTree_eq (by decide) createTree_oneFileLater
  have hm := (moves_asking upThroughFile oneFile .python).tail (.stage (.begin _ 0))
    |>.tail (.stage (stage_of_serve 0 rfl (hlocate 0)))
    |>.tail (.stage (stage_of_serve 0 rfl rfl))
    |>.tail (.stage (stage_of_serve 0 rfl (hfirst 0)))
    |>.tail (.stage (.begin _ 1))
    |>.tail (.stage (stage_of_serve 1 rfl hlocateLater))
    |>.tail (.stage (stage_of_serve 1 rfl rfl))
    |>.tail (.stage (stage_of_serve 1 rfl (hsecond 1)))
  refine ⟨by decide, rfl, ⟨_, hm, rfl, rfl⟩, ?_, by decide⟩
  show greeting.run (sevens 1) oneFile (execution upThroughFile .python printing) = _
  exact (run_of_serve (hlocate 1)).trans ((run_of_serve rfl).trans (run_of_serve (hfirst 1)))

/-- The second one finds its interpreter by way of the root, which the first one has made. -/
theorem isAnsweredOtherwise_behindRoot :
    IsAnsweredOtherwise behindRoot onlyTools 1 printing (.success "hi")
      (.ofFailure (.missingTools ["/new/../bin/python3"])) := by
  have hcpp : greeting.serve (sevens 0) onlyTools (.locate "g++") = (some "/bin/g++", onlyTools) :=
    serve_locate_eq (locateProgram_of_first (by decide) (isExecutable_cpp []) (.refl onlyTools))
  have hroot : greeting.serve (sevens 0) onlyTools (.createTree "/new") =
      (.ok (), onlyToolsLater) := serve_createTree_eq (by decide) createTree_onlyTools
  have hlocate : greeting.serve (sevens 1) onlyToolsLater (.locate "/new/../bin/python3") =
      (some "/new/../bin/python3", onlyToolsLater) := serve_locate_eq lookUp_behindRoot_later
  have hleads : LeadsTo onlyToolsLater [] "/new" ["new"] :=
    leadsTo_top (by decide) isStep_new rfl rfl
  have hagain : greeting.serve (sevens 1) onlyToolsLater (.createTree "/new") =
      (.ok (), onlyToolsLater) :=
    serve_createTree_eq (by decide) (createTree_of_leadsTo (by decide) (by decide) hleads rfl)
  have hplaced : Placed onlyToolsLater [] (pathOf "/new" "77") ["new", "polyglot-77"] :=
    placed_of_leadsTo (by decide) hleads rfl (by decide) (by decide)
  obtain ⟨hmake, -, hwatch⟩ :=
    serves_greeting "/new/../bin/python3" "print(1)" hplaced rfl rfl (by decide) (by decide)
  have hm := (moves_asking behindRoot onlyTools .cpp).tail (.stage (.begin _ 0))
    |>.tail (.stage (stage_of_serve 0 rfl hcpp))
    |>.tail (.stage (stage_of_serve 0 rfl rfl))
    |>.tail (.stage (stage_of_serve 0 rfl hroot))
    |>.tail (.stage (.begin _ 1))
    |>.tail (.stage (stage_of_serve 1 rfl hlocate))
    |>.tail (.stage (stage_of_serve 1 rfl rfl))
    |>.tail (.stage (stage_of_serve 1 rfl hagain))
    |>.tail (.stage (stage_of_serve 1 rfl hmake))
    |>.tail (.stage (stage_of_serve 1 rfl hwatch))
    |>.tail (.stage (stage_of_serve 1 rfl rfl))
    |>.tail (.stage (stage_of_serve 1 rfl rfl))
  refine ⟨by decide, rfl, ⟨_, hm, rfl, rfl⟩, ?_, by decide⟩
  show greeting.run (sevens 1) onlyTools (execution behindRoot .python printing) = _
  have hmissing : greeting.serve (sevens 1) onlyTools (.locate "/new/../bin/python3") =
      (none, onlyTools) := serve_locate_eq lookUp_behindRoot
  exact run_of_serve hmissing

/-- One request fails for another reason than alone, though it finds its programs as it does alone,
    and one is answered that cannot be alone, though its root does not go up. -/
theorem outcome_ne_alone :
    Function.Injective sevens ∧ (∀ ticket, '/' ∉ (sevens ticket).toList) ∧
      (FindsAsAlone greeting sevens upThroughFile oneFile 1 printing ∧
        IsAnsweredOtherwise upThroughFile oneFile 1 printing
          (.ofFailure (rootFailure upThroughFile.workspaceRoot .notADirectory))
          (.ofFailure (rootFailure upThroughFile.workspaceRoot .alreadyExists))) ∧
      ".." ∉ Path.names behindRoot.workspaceRoot ∧
        IsAnsweredOtherwise behindRoot onlyTools 1 printing (.success "hi")
          (.ofFailure (.missingTools ["/new/../bin/python3"])) :=
  ⟨sevens_injective, not_mem_sevens,
    ⟨findsAsAlone_printing _ 1 (by decide) rfl, isAnsweredOtherwise_upThroughFile⟩, by decide,
    isAnsweredOtherwise_behindRoot⟩

end Playground.Service
