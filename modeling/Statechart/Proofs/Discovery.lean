import Statechart.Proofs.Startup

/-!
# Where a configuration is found

A configuration file is looked for in three places (`Project.Finds`): where a variable says, in the current directory,
and in the directories above it, the nearest first. What is looked at on the way is little. Whether a file is there is
asked of a few paths (`Project.Asks`), and only project files above the current directory are opened, up to the first
that says something of ours (`Project.Opens`). Projects that agree on these find the same (`Project.Agrees`).

A project file counts if its tools have an entry of ours, though this be no table. Where it is one, the file that is
found is the one with the nearest table of ours (`Project.found_in_order`).
-/

set_option autoImplicit false
set_option relaxedAutoImplicit false

namespace Statechart.Project

open Work

/-! ### Project files that count -/

/-- The tools of a document have a table of ours. -/
def HasTable (document : Entries) : Prop :=
  ∃ tool ours, Entries.get? document "tool" = some (.table tool) ∧ Entries.get? tool "hexchart" = some (.table ours)

/-- The tools of a document have an entry of ours, a table or anything else. -/
def Mentions (document : Entries) : Prop :=
  ∃ tool v, Entries.get? document "tool" = some (.table tool) ∧ Entries.get? tool "hexchart" = some v

theorem HasTable.mentions {document : Entries} (h : HasTable document) : Mentions document := by
  obtain ⟨tool, ours, htool, hours⟩ := h
  exact ⟨tool, .table ours, htool, hours⟩

section

variable (p : Project)

/-- A path leads to a file or to a directory. -/
def Leads (path : Path) : Prop := p.files.has p.directory path = .ok true

/-- A file holds a document. -/
def Reads (path : Path) (document : Entries) : Prop :=
  p.files.read p.directory path >>= Files.decode >>= Toml.load = .ok document

/-- The project file of a directory is there, and it holds a document that counts. -/
def Counts (counts : Entries → Prop) (directory : Path) : Prop :=
  p.Leads (directory.child projectFile) ∧ ∃ document, p.Reads (directory.child projectFile) document ∧ counts document

/-- No variable leads to a file. -/
def Unnamed : Prop :=
  ∀ text, p.environment.lookup pathVariable = some text → text ≠ "" → ¬ p.Leads (.ofText text)

/-- The file that is found, where documents of a kind count: the one that the variable names if it is there, else the
project file of the current directory if it is there, else the one of the nearest directory above that counts. -/
inductive Finds (counts : Entries → Prop) : Outcome Path → Prop
  | named {text : String} (hset : p.environment.lookup pathVariable = some text) (hne : text ≠ "")
      (hthere : p.Leads (.ofText text)) : Finds counts (.ok (.ofText text))
  | here (hunnamed : p.Unnamed) (hthere : p.Leads (.ofText projectFile)) : Finds counts (.ok (.ofText projectFile))
  | above {before after : List Path} {directory : Path} (hunnamed : p.Unnamed) (hhere : ¬ p.Leads (.ofText projectFile))
      (hsplit : p.directory.ancestors = before ++ directory :: after) (hbefore : ∀ d ∈ before, ¬ p.Counts counts d)
      (h : p.Counts counts directory) : Finds counts (.ok (directory.child projectFile))
  | nowhere (hunnamed : p.Unnamed) (hhere : ¬ p.Leads (.ofText projectFile))
      (hnone : ∀ d ∈ p.directory.ancestors, ¬ p.Counts counts d) :
      Finds counts (.error (.fault .fileNotFound (some nothingFound)))

/-- The search through some directories comes to one of them: none before it has a project file of ours. -/
def ComesTo (directories : List Path) (directory : Path) : Prop :=
  ∃ before after, directories = before ++ directory :: after ∧ ∀ d ∈ before, ¬ p.Counts Mentions d

/-- The search comes to a directory above the current one. -/
def Reaches (directory : Path) : Prop :=
  p.Unnamed ∧ ¬ p.Leads (.ofText projectFile) ∧ p.ComesTo p.directory.ancestors directory

/-- A path of which it is asked whether it leads to anything. -/
inductive Asks : Path → Prop
  | named {text : String} (hset : p.environment.lookup pathVariable = some text) (hne : text ≠ "") : Asks (.ofText text)
  | here (hunnamed : p.Unnamed) : Asks (.ofText projectFile)
  | above {directory : Path} (h : p.Reaches directory) : Asks (directory.child projectFile)

/-- A project file that is opened. -/
inductive Opens : Path → Prop
  | above {directory : Path} (h : p.Reaches directory) (hthere : p.Leads (directory.child projectFile)) :
      Opens (directory.child projectFile)

/-- A project file is a document with a table of tools, or without tools. -/
def IsProper (path : Path) : Prop :=
  ∃ document, p.Reads path document ∧ ∀ v, Entries.get? document "tool" = some v → ∃ tool, v = .table tool

/-- Two projects agree on what a search in the first looks at. -/
structure Agrees (q : Project) : Prop where
  directory : q.directory = p.directory
  path : q.environment.lookup pathVariable = p.environment.lookup pathVariable
  asked : ∀ path, p.Asks path → q.files.has q.directory path = p.files.has p.directory path
  opened : ∀ path, p.Opens path → q.files.read q.directory path = p.files.read p.directory path

end

variable {p q : Project} {counts : Entries → Prop} {path directory : Path} {directories : List Path}
  {document : Entries}

/-- No two files are found. -/
theorem Finds.unique {o o' : Outcome Path} (h : p.Finds counts o) (h' : p.Finds counts o') : o = o' := by
  classical
  have hfirst {before after : List Path} {directory : Path}
      (hsplit : p.directory.ancestors = before ++ directory :: after) (hbefore : ∀ d ∈ before, ¬ p.Counts counts d)
      (hcounts : p.Counts counts directory) :
      p.directory.ancestors.find? (fun d ↦ decide (p.Counts counts d)) = some directory :=
    List.find?_eq_some_iff_append.mpr ⟨by simpa using hcounts, before, after, hsplit, by simpa using hbefore⟩
  cases h with
  | named hset hne hthere =>
    cases h' with
    | named hset' _ _ => rw [Option.some.inj (hset.symm.trans hset')]
    | here hunnamed _ => exact absurd hthere (hunnamed _ hset hne)
    | above hunnamed _ _ _ _ => exact absurd hthere (hunnamed _ hset hne)
    | nowhere hunnamed _ _ => exact absurd hthere (hunnamed _ hset hne)
  | here hunnamed hthere =>
    cases h' with
    | named hset hne hthere' => exact absurd hthere' (hunnamed _ hset hne)
    | here _ _ => rfl
    | above _ hhere _ _ _ => exact absurd hthere hhere
    | nowhere _ hhere _ => exact absurd hthere hhere
  | above hunnamed hhere hsplit hbefore hcounts =>
    cases h' with
    | named hset hne hthere' => exact absurd hthere' (hunnamed _ hset hne)
    | here _ hthere => exact absurd hthere hhere
    | above _ _ hsplit' hbefore' hcounts' =>
      cases (hfirst hsplit hbefore hcounts).symm.trans (hfirst hsplit' hbefore' hcounts')
      rfl
    | nowhere _ _ hnone => exact absurd hcounts (hnone _ (by simp [hsplit]))
  | nowhere hunnamed hhere hnone =>
    cases h' with
    | named hset hne hthere' => exact absurd hthere' (hunnamed _ hset hne)
    | here _ hthere => exact absurd hthere hhere
    | above _ _ hsplit' _ hcounts' => exact absurd hcounts' (hnone _ (by simp [hsplit']))
    | nowhere _ _ _ => rfl

/-! ### The file that is named -/

/-- What the variable names, if it is there. -/
def named (p : Project) : Outcome (Option Path) :=
  match p.environment.lookup pathVariable with
  | none => .ok none
  | some text =>
    if text = "" then .ok none
    else (p.files.has p.directory (.ofText text)).map fun isThere ↦ if isThere then some (.ofText text) else none

theorem named_of_set {text : String} (hset : p.environment.lookup pathVariable = some text) (hne : text ≠ "") :
    p.named = (p.files.has p.directory (.ofText text)).map fun isThere ↦
      if isThere then some (.ofText text) else none := by
  simp only [named, hset, if_neg hne]

theorem named_of_unset (h : ∀ text, p.environment.lookup pathVariable = some text → text = "") :
    p.named = .ok none := by
  unfold named
  split
  · rfl
  · next text hset => exact if_pos (h text hset)

theorem set_or_unset (p : Project) : (∃ text, p.environment.lookup pathVariable = some text ∧ text ≠ "") ∨
    ∀ text, p.environment.lookup pathVariable = some text → text = "" := by
  by_cases h : ∃ text, p.environment.lookup pathVariable = some text ∧ text ≠ ""
  · exact .inl h
  · exact .inr fun text hset ↦ Decidable.byContradiction fun hne ↦ h ⟨text, hset, hne⟩

theorem on_named? (p : Project) : ∃ journal, named?.on p = (p.named, { p with journal }) := by
  obtain ⟨journal, hquiet⟩ := isQuiet_named? p
  refine ⟨journal, Prod.ext ?_ hquiet⟩
  change (named?.on p).1 = p.named
  unfold named? named
  rw [on_get_bind]
  cases p.environment.lookup pathVariable with
  | none => rfl
  | some text =>
    by_cases hempty : text = ""
    · simp [hempty]
    · simp only [hempty, if_false]
      rw [on_bind, has_on]
      cases p.files.has p.directory (.ofText text) with
      | error f => rfl
      | ok isThere => cases isThere <;> rfl

theorem named_eq_some (h : p.named = .ok (some path)) : ∃ text, p.environment.lookup pathVariable = some text ∧
    text ≠ "" ∧ p.Leads (.ofText text) ∧ path = .ofText text := by
  rcases p.set_or_unset with ⟨text, hset, hne⟩ | hunset
  · rw [named_of_set hset hne] at h
    cases hhas : p.files.has p.directory (.ofText text) with
    | error f =>
      rw [hhas] at h
      cases h
    | ok isThere =>
      rw [hhas] at h
      cases isThere with
      | false => cases h
      | true =>
        cases h
        exact ⟨text, hset, hne, hhas, rfl⟩
  · cases (named_of_unset hunset).symm.trans h

theorem unnamed_of_named (h : p.named = .ok none) : p.Unnamed := by
  intro text hset hne hthere
  rw [named_of_set hset hne, hthere] at h
  cases h

theorem named_eq_error {f : Failure} (h : p.named = .error f) :
    ∃ path, p.Asks path ∧ p.files.has p.directory path = .error f := by
  rcases p.set_or_unset with ⟨text, hset, hne⟩ | hunset
  · refine ⟨_, .named hset hne, ?_⟩
    rw [named_of_set hset hne] at h
    cases hhas : p.files.has p.directory (.ofText text) with
    | error f' =>
      rw [hhas] at h
      cases h
      rfl
    | ok isThere =>
      rw [hhas] at h
      cases h
  · cases (named_of_unset hunset).symm.trans h

/-! ### The directories above -/

/-- Whether a project file says something of ours. -/
def ours (p : Project) (path : Path) : Outcome Bool :=
  p.files.read p.directory path >>= Files.decode >>= Toml.load >>= fun document ↦
    holds "hexchart" ((Entries.get? document "tool").getD (.table []))

theorem hasOurTable_on (path : Path) (p : Project) : (hasOurTable path).on p = (p.ours path, p) := by
  unfold hasOurTable ours
  rw [on_bind, readToml_on]
  cases p.files.read p.directory path >>= Files.decode >>= Toml.load <;> rfl

theorem ours_of_reads (h : p.Reads path document) :
    p.ours path = holds "hexchart" ((Entries.get? document "tool").getD (.table [])) := by
  unfold Reads at h
  rw [ours, h, ok_bind]

theorem ours_of_mentions (hreads : p.Reads path document) (h : Mentions document) : p.ours path = .ok true := by
  obtain ⟨tool, v, htool, hv⟩ := h
  rw [ours_of_reads hreads, htool]
  simp [holds, hv]

/-- A proper document says something of ours exactly if its tools mention us. -/
theorem ours_of_proper (h : p.IsProper path) :
    (p.ours path = .ok true ∧ ∃ document, p.Reads path document ∧ Mentions document) ∨ p.ours path = .ok false := by
  obtain ⟨document, hreads, htable⟩ := h
  rw [ours_of_reads hreads]
  cases htool : Entries.get? document "tool" with
  | none => exact .inr rfl
  | some v =>
    obtain ⟨tool, rfl⟩ := htable v htool
    cases hours : Entries.get? tool "hexchart" with
    | none => simp [holds, hours]
    | some ours => exact .inl ⟨by simp [holds, hours], document, hreads, tool, ours, htool, hours⟩

theorem not_counts_of_ours (h : p.ours (directory.child projectFile) = .ok false) : ¬ p.Counts Mentions directory := by
  rintro ⟨-, document, hreads, hmentions⟩
  cases h.symm.trans (ours_of_mentions hreads hmentions)

theorem ComesTo.head (directory : Path) (rest : List Path) : p.ComesTo (directory :: rest) directory :=
  ⟨[], rest, rfl, by simp⟩

theorem ComesTo.tail {d : Path} {rest : List Path} (hd : ¬ p.Counts Mentions d) (h : p.ComesTo rest directory) :
    p.ComesTo (d :: rest) directory := by
  obtain ⟨before, after, rfl, hbefore⟩ := h
  exact ⟨d :: before, after, rfl, List.forall_mem_cons.mpr ⟨hd, hbefore⟩⟩

/-- The project file that counts is that of the first directory, or one that counts among the others. -/
theorem nearest?_cons (directory : Path) (rest : List Path) (p : Project) :
    (nearest? (directory :: rest)).on p = match p.files.has p.directory (directory.child projectFile) with
      | .error f => (.error f, p)
      | .ok false => (nearest? rest).on p
      | .ok true => match p.ours (directory.child projectFile) with
        | .error f => (.error f, p)
        | .ok false => (nearest? rest).on p
        | .ok true => (.ok (some (directory.child projectFile)), p) := by
  rw [nearest?, on_bind, has_on]
  cases p.files.has p.directory (directory.child projectFile) with
  | error f => rfl
  | ok isThere =>
    cases isThere with
    | false => rfl
    | true =>
      simp only [if_true]
      rw [on_bind, hasOurTable_on]
      cases p.ours (directory.child projectFile) with
      | error f => rfl
      | ok isOurs => cases isOurs <;> rfl

/-- What a search through some directories comes to. -/
inductive Nearest (p : Project) (directories : List Path) : Outcome (Option Path) → Prop
  | found {before after : List Path} {directory : Path} (hsplit : directories = before ++ directory :: after)
      (hbefore : ∀ d ∈ before, ¬ p.Counts Mentions d) (h : p.Counts Mentions directory) :
      Nearest p directories (.ok (some (directory.child projectFile)))
  | none (hnone : ∀ d ∈ directories, ¬ p.Counts Mentions d) : Nearest p directories (.ok none)

theorem Nearest.tail {d : Path} {rest : List Path} {o : Outcome (Option Path)} (hd : ¬ p.Counts Mentions d)
    (h : p.Nearest rest o) : p.Nearest (d :: rest) o := by
  cases h with
  | found hsplit hbefore h =>
    rw [hsplit]
    exact .found (List.cons_append ..).symm (List.forall_mem_cons.mpr ⟨hd, hbefore⟩) h
  | none hnone => exact .none (List.forall_mem_cons.mpr ⟨hd, hnone⟩)

theorem nearest_of_nearest? (hanswered : ∀ d, p.ComesTo directories d →
      ∃ b, p.files.has p.directory (d.child projectFile) = .ok b)
    (hproper : ∀ d, p.ComesTo directories d → p.Leads (d.child projectFile) → p.IsProper (d.child projectFile)) :
    p.Nearest directories ((nearest? directories).on p).1 := by
  induction directories with
  | nil => exact .none (by simp)
  | cons d rest ih =>
    have hpassed (hd : ¬ p.Counts Mentions d) : p.Nearest (d :: rest) ((nearest? rest).on p).1 :=
      .tail hd (ih (fun _ h ↦ hanswered _ (h.tail hd)) fun _ h ↦ hproper _ (h.tail hd))
    rw [nearest?_cons]
    obtain ⟨isThere, hhas⟩ := hanswered d (.head d rest)
    rw [hhas]
    cases isThere with
    | false => exact hpassed fun hcounts ↦ by cases hhas.symm.trans hcounts.1
    | true =>
      rcases ours_of_proper (hproper d (.head d rest) hhas) with ⟨hours, hmentions⟩ | hours
      · rw [hours]
        exact .found (List.nil_append (d :: rest)).symm (by simp) ⟨hhas, hmentions⟩
      · rw [hours]
        exact hpassed (not_counts_of_ours hours)

theorem nearest?_congr (h : ∀ d, p.ComesTo directories d →
      q.files.has q.directory (d.child projectFile) = p.files.has p.directory (d.child projectFile) ∧
        (p.Leads (d.child projectFile) →
          q.files.read q.directory (d.child projectFile) = p.files.read p.directory (d.child projectFile))) :
    ((nearest? directories).on q).1 = ((nearest? directories).on p).1 := by
  induction directories with
  | nil => rfl
  | cons d rest ih =>
    have hpassed (hd : ¬ p.Counts Mentions d) := ih fun _ hd' ↦ h _ (hd'.tail hd)
    obtain ⟨hasked, hopened⟩ := h d (.head d rest)
    rw [nearest?_cons, nearest?_cons, hasked]
    cases hhas : p.files.has p.directory (d.child projectFile) with
    | error f => rfl
    | ok isThere =>
      cases isThere with
      | false => exact hpassed fun hcounts ↦ by cases hhas.symm.trans hcounts.1
      | true =>
        have hsame : q.ours (d.child projectFile) = p.ours (d.child projectFile) := by
          rw [ours, ours, hopened hhas]
        simp only [hsame]
        cases hours : p.ours (d.child projectFile) with
        | error f => rfl
        | ok isOurs =>
          cases isOurs with
          | false => exact hpassed (not_counts_of_ours hours)
          | true => rfl

theorem has_eq_error {files : Files} {here : Path} {f : Failure} (h : files.has here path = .error f) :
    f = .plain .nameTooLong := by
  unfold Files.has at h
  split at h
  all_goals cases h
  rfl

/-- Where a search comes to a path that is too long, it ends there, or at another one before. -/
theorem nearest?_tooLong {f : Failure} (hcomes : p.ComesTo directories directory)
    (hlong : p.files.has p.directory (directory.child projectFile) = .error f)
    (hproper : ∀ d, p.ComesTo directories d → p.Leads (d.child projectFile) → p.IsProper (d.child projectFile)) :
    ((nearest? directories).on p).1 = .error (.plain .nameTooLong) := by
  obtain ⟨before, after, rfl, hbefore⟩ := hcomes
  induction before with
  | nil => rw [List.nil_append, nearest?_cons, hlong, has_eq_error hlong]
  | cons d rest ih =>
    obtain ⟨hd, hrest⟩ := List.forall_mem_cons.mp hbefore
    have hpassed := ih hrest fun d' h ↦ hproper d' (h.tail hd)
    rw [List.cons_append, nearest?_cons]
    cases hhas : p.files.has p.directory (d.child projectFile) with
    | error f' => rw [has_eq_error hhas]
    | ok isThere =>
      cases isThere with
      | false => exact hpassed
      | true =>
        rcases ours_of_proper (hproper d (.head d _) hhas) with ⟨-, hmentions⟩ | hours
        · exact absurd ⟨hhas, hmentions⟩ hd
        · simp only [hours]
          exact hpassed

/-! ### The whole search -/

/-- The places where a file is looked for, one after another. -/
theorem locate_none (p : Project) : ((locate none).on p).1 = match p.named with
    | .error f => .error f
    | .ok (some path) => .ok path
    | .ok none => match p.files.has p.directory (.ofText projectFile) with
      | .error f => .error f
      | .ok true => .ok (.ofText projectFile)
      | .ok false => match ((nearest? p.directory.ancestors).on p).1 with
        | .error f => .error f
        | .ok (some path) => .ok path
        | .ok none => .error (.fault .fileNotFound (some nothingFound)) := by
  obtain ⟨journal, hnamed⟩ := on_named? p
  -- a line about a missing file may have been logged, and nothing is found in the journal
  have hnoted : ((nearest? p.directory.ancestors).on { p with journal }).1 =
      ((nearest? p.directory.ancestors).on p).1 := nearest?_congr fun _ _ ↦ ⟨rfl, fun _ ↦ rfl⟩
  rw [locate, on_bind, discover?, on_bind, hnamed, ← hnoted]
  cases p.named with
  | error f => rfl
  | ok named =>
    cases named with
    | some path => rfl
    | none =>
      simp only
      rw [on_bind, has_on]
      cases p.files.has p.directory (.ofText projectFile) with
      | error f => rfl
      | ok isThere =>
        cases isThere with
        | true => rfl
        | false =>
          simp only [Bool.false_eq_true, if_false, on_get_bind]
          cases (nearest? p.directory.ancestors).on { p with journal } with
          | mk o after => cases o with
            | error f => rfl
            | ok found => cases found <;> rfl

theorem finds_locate (hanswered : ∀ path, p.Asks path → ∃ b, p.files.has p.directory path = .ok b)
    (hproper : ∀ path, p.Opens path → p.IsProper path) : p.Finds Mentions ((locate none).on p).1 := by
  rw [locate_none]
  cases hnamed : p.named with
  | error f =>
    obtain ⟨path, hasks, hhas⟩ := named_eq_error hnamed
    obtain ⟨b, hb⟩ := hanswered path hasks
    cases hhas.symm.trans hb
  | ok named =>
    cases named with
    | some path =>
      obtain ⟨text, hset, hne, hthere, rfl⟩ := named_eq_some hnamed
      exact .named hset hne hthere
    | none =>
      have hunnamed := unnamed_of_named hnamed
      obtain ⟨isThere, hhas⟩ := hanswered _ (.here hunnamed)
      simp only [hhas]
      cases isThere with
      | true => exact .here hunnamed hhas
      | false =>
        have hhere : ¬ p.Leads (.ofText projectFile) := fun hthere ↦ by cases hhas.symm.trans hthere
        have hnearest : p.Nearest p.directory.ancestors ((nearest? p.directory.ancestors).on p).1 :=
          nearest_of_nearest? (fun d h ↦ hanswered _ (.above ⟨hunnamed, hhere, h⟩))
            fun d h hthere ↦ hproper _ (.above ⟨hunnamed, hhere, h⟩ hthere)
        generalize ((nearest? p.directory.ancestors).on p).1 = o at hnearest
        cases hnearest with
        | found hsplit hbefore h => exact .above hunnamed hhere hsplit hbefore h
        | none hnone => exact .nowhere hunnamed hhere hnone

theorem locate_tooLong {f : Failure} (hasks : p.Asks path) (hlong : p.files.has p.directory path = .error f)
    (hproper : ∀ path, p.Opens path → p.IsProper path) :
    ((locate none).on p).1 = .error (.plain .nameTooLong) := by
  rw [locate_none]
  cases hnamed : p.named with
  | error f' =>
    obtain ⟨_, -, hhas⟩ := named_eq_error hnamed
    rw [has_eq_error hhas]
  | ok named =>
    cases named with
    | some path =>
      obtain ⟨text, hset, hne, hthere, rfl⟩ := named_eq_some hnamed
      cases hasks with
      | named hset' _ =>
        cases hset.symm.trans hset'
        cases hthere.symm.trans hlong
      | here hunnamed => exact absurd hthere (hunnamed _ hset hne)
      | above h => exact absurd hthere (h.1 _ hset hne)
    | none =>
      cases hasks with
      | named hset hne =>
        rw [named_of_set hset hne, hlong] at hnamed
        cases hnamed
      | here _ => simp only [hlong, has_eq_error hlong]
      | above h =>
        obtain ⟨hunnamed, hhere, hcomes⟩ := h
        have hnearest := nearest?_tooLong hcomes hlong fun d h hthere ↦ hproper _ (.above ⟨hunnamed, hhere, h⟩ hthere)
        cases hhas : p.files.has p.directory (.ofText projectFile) with
        | error f' => rw [has_eq_error hhas]
        | ok isThere =>
          cases isThere with
          | true => exact absurd hhas hhere
          | false => simp only [hnearest]

theorem locate_congr (h : p.Agrees q) : ((locate none).on q).1 = ((locate none).on p).1 := by
  have hsame : q.named = p.named := by
    rcases p.set_or_unset with ⟨text, hset, hne⟩ | hunset
    · rw [named_of_set hset hne, named_of_set (h.path.trans hset) hne, h.asked _ (.named hset hne)]
    · rw [named_of_unset hunset, named_of_unset (h.path ▸ hunset)]
  rw [locate_none, locate_none, hsame]
  cases hnamed : p.named with
  | error f => rfl
  | ok named =>
    cases named with
    | some path => rfl
    | none =>
      have hunnamed := unnamed_of_named hnamed
      simp only [h.asked _ (.here hunnamed)]
      cases hhas : p.files.has p.directory (.ofText projectFile) with
      | error f => rfl
      | ok isThere =>
        cases isThere with
        | true => rfl
        | false =>
          have hhere : ¬ p.Leads (.ofText projectFile) := fun hthere ↦ by cases hhas.symm.trans hthere
          have hnearest : ((nearest? p.directory.ancestors).on q).1 = ((nearest? p.directory.ancestors).on p).1 :=
            nearest?_congr fun d hd ↦ ⟨h.asked _ (.above ⟨hunnamed, hhere, hd⟩),
              fun hthere ↦ h.opened _ (.above ⟨hunnamed, hhere, hd⟩ hthere)⟩
          simp only [h.directory, hnearest]

/-- Where what mentions us is a table, the file that is found is the one with the nearest table of ours. -/
theorem Finds.table {o : Outcome Path} (h : p.Finds Mentions o)
    (htable : ∀ path document, p.Opens path → p.Reads path document → Mentions document → HasTable document) :
    p.Finds HasTable o := by
  have hcounts {d : Path} (hd : ¬ p.Counts Mentions d) : ¬ p.Counts HasTable d :=
    fun ⟨hthere, document, hreads, h⟩ ↦ hd ⟨hthere, document, hreads, h.mentions⟩
  cases h with
  | named hset hne hthere => exact .named hset hne hthere
  | here hunnamed hthere => exact .here hunnamed hthere
  | above hunnamed hhere hsplit hbefore h =>
    obtain ⟨hthere, document, hreads, hmentions⟩ := h
    have hopens := Opens.above ⟨hunnamed, hhere, _, _, hsplit, hbefore⟩ hthere
    exact .above hunnamed hhere hsplit (fun d hd ↦ hcounts (hbefore d hd))
      ⟨hthere, document, hreads, htable _ _ hopens hreads hmentions⟩
  | nowhere hunnamed hhere hnone => exact .nowhere hunnamed hhere fun d hd ↦ hcounts (hnone d hd)

/-- Where a configuration is found. Assumes: every project file that is opened is a document with a table of tools, or
without tools. First, if it cannot be told of a path that is asked for whether it leads to anything, since it is too
long, the search fails. Second, if it can be told of all of them, what is found is the file that the variable names,
that of the current directory, or the nearest above whose tools have an entry of ours, and otherwise there is nothing to
be found; and the nearest above is the nearest with a table of ours, unless an entry of another kind is met with. Third,
nothing else is looked at: a project that agrees on the paths that are asked for and on the files that are opened finds
the same, whatever it has elsewhere. -/
theorem found_in_order (hproper : ∀ path, p.Opens path → p.IsProper path) :
    (∀ path f, p.Asks path → p.files.has p.directory path = .error f →
      ((locate none).on p).1 = .error (.plain .nameTooLong)) ∧
    ((∀ path, p.Asks path → ∃ b, p.files.has p.directory path = .ok b) →
      (∀ o, ((locate none).on p).1 = o ↔ p.Finds Mentions o) ∧
      ((∀ path document, p.Opens path → p.Reads path document → Mentions document → HasTable document) →
        ∀ o, ((locate none).on p).1 = o ↔ p.Finds HasTable o)) ∧
    ∀ q, p.Agrees q → ((locate none).on q).1 = ((locate none).on p).1 := by
  refine ⟨fun path f hasks hlong ↦ locate_tooLong hasks hlong hproper, fun hanswered ↦ ?_, fun q ↦ locate_congr⟩
  have hfinds := finds_locate hanswered hproper
  refine ⟨fun o ↦ ⟨?_, hfinds.unique⟩, fun htable o ↦ ⟨?_, (hfinds.table htable).unique⟩⟩
  · rintro rfl
    exact hfinds
  · rintro rfl
    exact hfinds.table htable

/-! ### A file that is found, and one that is not -/

/-- A document with a table of ours: what `[tool.hexchart]` stands for. -/
def ourDocument : Entries := [(.text "tool", .table [(.text "hexchart", .table [])])]

/-- The bytes of `[tool.hexchart]`. -/
def ourBytes : List UInt8 := [91, 116, 111, 111, 108, 46, 104, 101, 120, 99, 104, 97, 114, 116, 93]

/-- The project file above the current directory has a table of ours, and the one above it is no document. -/
def nested : Project where
  directory := ⟨"/", ["a", "b"]⟩
  files := { contents := [(["a", "pyproject.toml"], ourBytes), (["pyproject.toml"], [91])] }

/-- The project file above the current directory has a list of tables in our place, and the one above it has a table. -/
def listed : Project where
  directory := ⟨"/", ["a", "b"]⟩
  files := { contents := [(["a", "pyproject.toml"], [91] ++ ourBytes ++ [93]), (["pyproject.toml"], ourBytes)] }

/-- The nearest project file with a table of ours is found, whatever stands above it. -/
theorem found_in_order_of_nested : nested.Finds HasTable (.ok ⟨"/", ["a", "pyproject.toml"]⟩) := by
  have hreads : nested.Reads ⟨"/", ["a", "pyproject.toml"]⟩ ourDocument := rfl
  have hcounts : nested.Counts Mentions ⟨"/", ["a"]⟩ := ⟨rfl, _, hreads, _, _, rfl, rfl⟩
  have hreached {d : Path} (h : nested.Reaches d) : d = ⟨"/", ["a"]⟩ := by
    obtain ⟨-, -, before, after, hsplit, hbefore⟩ := h
    cases before with
    | nil => exact (List.cons.inj hsplit).1.symm
    | cons first rest =>
      obtain ⟨rfl, -⟩ := List.cons.inj hsplit
      exact absurd hcounts (hbefore _ List.mem_cons_self)
  have hproper : ∀ path, nested.Opens path → nested.IsProper path := by
    rintro _ ⟨h, -⟩
    rw [hreached h]
    exact ⟨ourDocument, hreads, fun v hv ↦ ⟨_, (Option.some.inj hv).symm⟩⟩
  have hanswered : ∀ path, nested.Asks path → ∃ b, nested.files.has nested.directory path = .ok b := by
    rintro _ (⟨hset, -⟩ | - | h)
    · cases hset
    · exact ⟨false, rfl⟩
    · rw [hreached h]
      exact ⟨true, rfl⟩
  have htable : ∀ path document, nested.Opens path → nested.Reads path document → Mentions document →
      HasTable document := by
    rintro _ document ⟨h, -⟩ hdocument -
    rw [hreached h] at hdocument
    cases hreads.symm.trans hdocument
    exact ⟨_, _, rfl, rfl⟩
  exact (((found_in_order hproper).2.1 hanswered).2 htable _).mp rfl

/-- An entry of another kind hides the table of ours above it, though all project files are documents. -/
theorem not_found_in_order_of_listed : ¬ ∀ p : Project,
    (∀ d ∈ p.directory.ancestors, p.Leads (d.child projectFile) → p.IsProper (d.child projectFile)) →
      ∀ o, p.Finds HasTable o → ((locate none).on p).1 = o := by
  intro h
  have hnear : listed.Reads ⟨"/", ["a", "pyproject.toml"]⟩
      [(.text "tool", .table [(.text "hexchart", .list [.table []])])] := rfl
  have hfar : listed.Reads ⟨"/", ["pyproject.toml"]⟩ ourDocument := rfl
  have hancestors : listed.directory.ancestors = [⟨"/", ["a"]⟩, ⟨"/", []⟩] := rfl
  have hproper : ∀ d ∈ listed.directory.ancestors, listed.Leads (d.child projectFile) →
      listed.IsProper (d.child projectFile) := by
    rw [hancestors, List.forall_mem_cons, List.forall_mem_singleton]
    exact ⟨fun _ ↦ ⟨_, hnear, fun v hv ↦ ⟨_, (Option.some.inj hv).symm⟩⟩,
      fun _ ↦ ⟨_, hfar, fun v hv ↦ ⟨_, (Option.some.inj hv).symm⟩⟩⟩
  have hhidden : ¬ listed.Counts HasTable ⟨"/", ["a"]⟩ := by
    rintro ⟨-, document, hdocument, tool, ours, htool, hours⟩
    cases hnear.symm.trans hdocument
    cases htool
    cases hours
  have hfinds : listed.Finds HasTable (.ok ⟨"/", ["pyproject.toml"]⟩) := by
    have hunnamed : listed.Unnamed := fun _ hset ↦ by cases hset
    have hhere : ¬ listed.Leads (.ofText projectFile) := fun hthere ↦ by cases hthere
    have hsplit : listed.directory.ancestors = [⟨"/", ["a"]⟩] ++ ⟨"/", []⟩ :: [] := rfl
    exact .above hunnamed hhere hsplit (List.forall_mem_singleton.mpr hhidden) ⟨rfl, _, hfar, _, _, rfl, rfl⟩
  have hfound : ((locate none).on listed).1 = .ok ⟨"/", ["a", "pyproject.toml"]⟩ := rfl
  exact absurd (Except.ok.inj (hfound.symm.trans (h listed hproper _ hfinds))) (by decide)

end Statechart.Project
