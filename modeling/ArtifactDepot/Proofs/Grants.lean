import ArtifactDepot.Proofs.Loading
import Mathlib.Data.List.Forall2

/-!
# The most specific grant

A lookup takes the first grant in match order that applies to the path.  That
is the grant of the member of the section whose prefix is the longest one that
starts the path, and the earliest of those with this prefix:
`Grant.find?_inMatchOrder` says so of grants, `credentialFor_most_specific` of
the document that a keyring was loaded from.  Prefixes and paths are compared
without their scheme.
-/

namespace ArtifactDepot

open ArtifactDepot.Action

namespace Grant

variable {grants : List Grant} {grant other : Grant} {path : Text}

theorem applies_iff : grant.applies path = true ↔ grant.scope <+: path := by
  rw [applies, List.isPrefixOf_iff_prefix]

/-- Grants with one scope keep the order of the document. -/
theorem filter_inMatchOrder (scope : Text) (grants : List Grant) :
    (inMatchOrder grants).filter (fun grant => grant.scope == scope) =
      grants.filter (fun grant => grant.scope == scope) := by
  have hpairwise : (grants.filter (fun grant => grant.scope == scope)).Pairwise
      (fun left right => precedes left right = true) := by
    refine List.pairwise_of_forall_mem_list fun left hleft right hright => ?_
    rw [precedes, eq_of_beq (List.mem_filter.1 hleft).2, eq_of_beq (List.mem_filter.1 hright).2]
    exact decide_eq_true (Nat.le_refl _)
  have hsublist : (grants.filter (fun grant => grant.scope == scope)).Sublist
      (inMatchOrder grants) :=
    List.sublist_mergeSort precedes_trans precedes_total hpairwise List.filter_sublist
  -- Both lists have the same length, so the one is all of the other.
  have hfiltered := hsublist.filter (fun grant => grant.scope == scope)
  rw [List.filter_filter, funext fun _ => Bool.and_self _] at hfiltered
  refine (hfiltered.eq_of_length ?_).symm
  exact ((List.mergeSort_perm grants precedes).filter _).length_eq.symm

/-- The first grant of a scope in match order is the first one in the document. -/
theorem find?_scope_inMatchOrder (scope : Text) (grants : List Grant) :
    (inMatchOrder grants).find? (fun grant => grant.scope == scope) =
      grants.find? (fun grant => grant.scope == scope) := by
  rw [← List.head?_filter, filter_inMatchOrder, List.head?_filter]

/-- What is found for a path has the longest scope, and is the first grant with that scope. -/
theorem longest_of_find? (h : (inMatchOrder grants).find? (·.applies path) = some grant) :
    (∀ other ∈ grants, other.applies path = true → other.scope.length ≤ grant.scope.length) ∧
      grants.find? (fun other => other.scope == grant.scope) = some grant := by
  obtain ⟨happlies, earlier, later, hsplit, hearlier⟩ := List.find?_eq_some_iff_append.1 h
  constructor
  · intro other hmem hother
    have hpairwise := inMatchOrder_pairwise grants
    rw [← mem_inMatchOrder, hsplit] at hmem
    rw [hsplit] at hpairwise
    rcases List.mem_append.1 hmem with hmem | hmem
    · have hnot := hearlier other hmem
      rw [hother] at hnot
      cases hnot
    · rcases List.mem_cons.1 hmem with rfl | hmem
      · exact Nat.le_refl _
      · exact List.rel_of_pairwise_cons (List.pairwise_append.1 hpairwise).2.1 hmem
  · rw [← find?_scope_inMatchOrder]
    refine List.find?_eq_some_iff_append.2 ⟨beq_self_eq_true _, earlier, later, hsplit, ?_⟩
    intro other hmem
    -- A grant with the same scope would apply as well.
    have hnot := hearlier other hmem
    cases hsame : other.scope == grant.scope with
    | false => rfl
    | true =>
        rw [applies, eq_of_beq hsame, ← applies, happlies] at hnot
        cases hnot

/-- The grant that is found for a path, without the match order. -/
theorem find?_inMatchOrder :
    (inMatchOrder grants).find? (·.applies path) = some grant ↔
      grant.scope <+: path ∧
        (∀ other ∈ grants, other.scope <+: path → other.scope.length ≤ grant.scope.length) ∧
          grants.find? (fun other => other.scope == grant.scope) = some grant := by
  constructor
  · intro h
    obtain ⟨hlongest, hfirst⟩ := longest_of_find? h
    have happlies := List.find?_some h
    refine ⟨applies_iff.1 happlies, fun other hmem hother => ?_, hfirst⟩
    exact hlongest other hmem (applies_iff.2 hother)
  · rintro ⟨happlies, hlongest, hfirst⟩
    have hmem := List.mem_of_find?_eq_some hfirst
    cases hfound : (inMatchOrder grants).find? (·.applies path) with
    | none =>
        have hnot := List.find?_eq_none.1 hfound grant (mem_inMatchOrder.2 hmem)
        exact absurd (applies_iff.2 happlies) hnot
    | some found =>
        -- Both scopes start the path and none is longer, so they are one.
        obtain ⟨hlongest', hfirst'⟩ := longest_of_find? hfound
        have happlies' := List.find?_some hfound
        have hprefix := applies_iff.1 happlies'
        have hmem' := List.mem_of_find?_eq_some hfirst'
        have hlength : found.scope.length = grant.scope.length :=
          Nat.le_antisymm (hlongest found hmem' hprefix)
            (hlongest' grant hmem (applies_iff.2 happlies))
        have hscope : found.scope = grant.scope :=
          (List.prefix_of_prefix_length_le hprefix happlies (Nat.le_of_eq hlength)).eq_of_length hlength
        rw [hscope, hfirst] at hfirst'
        exact hfirst'.symm

/-- Nothing is found for a path exactly if no scope starts it. -/
theorem find?_inMatchOrder_eq_none :
    (inMatchOrder grants).find? (·.applies path) = none ↔
      ∀ grant ∈ grants, ¬ grant.scope <+: path := by
  simp only [List.find?_eq_none, mem_inMatchOrder, applies_iff]

end Grant

namespace KeyTables

variable {kind : Kind} {config chapter path : Text} {document : List (Text × Json)}
  {member : Text × Json} {members : List (Text × Json)} {grant : Grant} {grants : List Grant}
  {tables : KeyTables} {credential : Credential}

/-! ## The grants of a document -/

/-- A grant is the one that a member of a section stands for. -/
structure IsGrantOf (kind : Kind) (member : Text × Json) (grant : Grant) : Prop where
  scope_eq : grant.scope = kind.strip member.1
  credential_eq : Credential.ofJson kind member.2 = .ok grant.credential

/-- The members of the section of a kind, in the order of the document. -/
def sectionOf (kind : Kind) (document : List (Text × Json)) : List (Text × Json) :=
  match kind.section?.bind (fun chapter => document.lookup chapter) with
  | some (.record members) => members
  | _ => []

theorem isGrantOf_of_readGrant (h : readGrant kind config chapter member = .ok grant) :
    IsGrantOf kind member grant := by
  rw [readGrant] at h
  cases hcredential : Credential.ofJson kind member.2 with
  | ok credential =>
      rw [hcredential] at h
      cases h
      exact ⟨rfl, hcredential⟩
  | error complaints =>
      rw [hcredential] at h
      cases h

/-- A sequence that ends well has two parts that do. -/
theorem parts_of_bind {ε α β : Type} {first : Except ε α} {next : α → Except ε β} {last : β}
    (h : (first >>= next) = .ok last) : ∃ value, first = .ok value ∧ next value = .ok last := by
  cases first with
  | error failure => cases h
  | ok value => exact ⟨value, rfl, h⟩

/-- A section that can be read has one grant for each of its members. -/
theorem grants_of_mapM (h : members.mapM (readGrant kind config chapter) = .ok grants) :
    List.Forall₂ (IsGrantOf kind) members grants := by
  induction members generalizing grants with
  | nil =>
      cases h
      exact .nil
  | cons member members ih =>
      rw [List.mapM_cons] at h
      obtain ⟨first, hfirst, h⟩ := parts_of_bind h
      obtain ⟨others, hothers, h⟩ := parts_of_bind h
      cases h
      exact .cons (isGrantOf_of_readGrant hfirst) (ih hothers)

theorem grants_of_readSection (hsection : kind.section? = some chapter)
    (h : readSection kind config chapter document = .ok grants) :
    List.Forall₂ (IsGrantOf kind) (sectionOf kind document) grants := by
  simp only [sectionOf, hsection, Option.bind_some]
  unfold readSection at h
  split at h
  · next hmissing =>
      cases h
      rw [hmissing]
      exact .nil
  · next hnull =>
      cases h
      rw [hnull]
      exact .nil
  · next members hrecord =>
      rw [hrecord]
      exact grants_of_mapM h
  · cases h

theorem grants_of_readTable {table : List Grant} (h : readTable kind config document = .ok table) :
    ∃ grants, List.Forall₂ (IsGrantOf kind) (sectionOf kind document) grants ∧
      table = Grant.inMatchOrder grants := by
  unfold readTable at h
  split at h
  · next hnone =>
      cases h
      refine ⟨[], ?_, List.mergeSort_nil.symm⟩
      simp only [sectionOf, hnone, Option.bind_none]
      exact .nil
  · next chapter hsection =>
      cases hgrants : readSection kind config chapter document with
      | error fault =>
          rw [hgrants] at h
          cases h
      | ok grants =>
          rw [hgrants] at h
          cases h
          exact ⟨grants, grants_of_readSection hsection hgrants, rfl⟩

/-- A document that can be read is a record, and each table has the grants of its section. -/
theorem grants_of_ofJson {json : Json} (h : ofJson config json = .ok tables) :
    ∃ document, json = .record document ∧
      ∀ kind, ∃ grants, List.Forall₂ (IsGrantOf kind) (sectionOf kind document) grants ∧
        tables.of kind = Grant.inMatchOrder grants := by
  cases json with
  | record document =>
      rw [ofJson] at h
      obtain ⟨gcs, hgcs, h⟩ := parts_of_bind h
      obtain ⟨s3, hs3, h⟩ := parts_of_bind h
      obtain ⟨azure, hazure, h⟩ := parts_of_bind h
      cases h
      refine ⟨document, rfl, fun kind => ?_⟩
      cases kind with
      | disk => exact ⟨[], .nil, List.mergeSort_nil.symm⟩
      | gcs => exact grants_of_readTable hgcs
      | s3 => exact grants_of_readTable hs3
      | azure => exact grants_of_readTable hazure
  | _ => cases h

/-! ## The member that a lookup chooses -/

/--
The member of a section that counts for a path: its prefix starts the path, no other prefix that
does is longer, and no member before it has the same prefix, all of them without the scheme.
-/
structure MostSpecific (kind : Kind) (members : List (Text × Json)) (path : Text)
    (member : Text × Json) : Prop where
  starts : kind.strip member.1 <+: kind.strip path
  longest : ∀ other ∈ members, kind.strip other.1 <+: kind.strip path →
    (kind.strip other.1).length ≤ (kind.strip member.1).length
  earliest : ∃ before after, members = before ++ member :: after ∧
    ∀ other ∈ before, kind.strip other.1 ≠ kind.strip member.1

/-- The scopes of the grants are the prefixes of the members. -/
theorem scopes_eq (hgrants : List.Forall₂ (IsGrantOf kind) members grants) :
    grants.map (·.scope) = members.map (fun member => kind.strip member.1) := by
  induction hgrants with
  | nil => rfl
  | cons hfirst _ ih => rw [List.map_cons, List.map_cons, hfirst.scope_eq, ih]

/-- The first grant of a scope is that of the first member with this prefix. -/
theorem find?_scope (hgrants : List.Forall₂ (IsGrantOf kind) members grants) (scope : Text) :
    Option.Rel (IsGrantOf kind) (members.find? (fun member => kind.strip member.1 == scope))
      (grants.find? (fun grant => grant.scope == scope)) := by
  induction hgrants with
  | nil => exact .none
  | @cons member grant members grants hfirst _ ih =>
      rw [List.find?_cons, List.find?_cons, hfirst.scope_eq]
      split
      · exact .some hfirst
      · exact ih

theorem find?_prefix_iff :
    members.find? (fun other => kind.strip other.1 == kind.strip member.1) = some member ↔
      ∃ before after, members = before ++ member :: after ∧
        ∀ other ∈ before, kind.strip other.1 ≠ kind.strip member.1 := by
  rw [List.find?_eq_some_iff_append]
  simp only [beq_self_eq_true, true_and, Bool.not_eq_true', beq_eq_false_iff_ne]

/-- A lookup finds the credential of the most specific member. -/
theorem match?_eq_some_iff (hgrants : List.Forall₂ (IsGrantOf kind) members grants)
    (htable : tables.of kind = Grant.inMatchOrder grants) :
    tables.match? kind path = some credential ↔
      ∃ member, MostSpecific kind members path member ∧
        Credential.ofJson kind member.2 = .ok credential := by
  have hlongest (length : Nat) :
      (∀ grant ∈ grants, grant.scope <+: kind.strip path → grant.scope.length ≤ length) ↔
        ∀ member ∈ members, kind.strip member.1 <+: kind.strip path →
          (kind.strip member.1).length ≤ length := by
    rw [← List.forall_mem_map (f := Grant.scope)
      (P := fun scope => scope <+: kind.strip path → scope.length ≤ length), scopes_eq hgrants,
      List.forall_mem_map]
  rw [match?, htable, Option.map_eq_some_iff]
  constructor
  · rintro ⟨grant, hfound, rfl⟩
    obtain ⟨hstarts, hmost, hfirst⟩ := Grant.find?_inMatchOrder.1 hfound
    have hrel := find?_scope hgrants grant.scope
    rw [hfirst] at hrel
    generalize hmember : members.find? _ = found at hrel
    cases hrel with
    | @some member _ hgrant =>
        rw [hgrant.scope_eq] at hstarts hmost hmember
        exact ⟨member, ⟨hstarts, (hlongest _).1 hmost, find?_prefix_iff.1 hmember⟩,
          hgrant.credential_eq⟩
  · rintro ⟨member, hmember, hcredential⟩
    have hrel := find?_scope hgrants (kind.strip member.1)
    rw [find?_prefix_iff.2 hmember.earliest] at hrel
    generalize hgrant : grants.find? _ = found at hrel
    cases hrel with
    | @some _ grant hgrantOf =>
        rw [← hgrantOf.scope_eq] at hgrant
        refine ⟨grant, Grant.find?_inMatchOrder.2 ⟨?_, ?_, hgrant⟩, ?_⟩
        · rw [hgrantOf.scope_eq]
          exact hmember.starts
        · rw [hgrantOf.scope_eq]
          exact (hlongest _).2 hmember.longest
        · have hsame := hgrantOf.credential_eq.symm.trans hcredential
          exact Except.ok.inj hsame

/-- A lookup finds nothing exactly if no prefix starts the path. -/
theorem match?_eq_none_iff (hgrants : List.Forall₂ (IsGrantOf kind) members grants)
    (htable : tables.of kind = Grant.inMatchOrder grants) :
    tables.match? kind path = none ↔
      ∀ member ∈ members, ¬ kind.strip member.1 <+: kind.strip path := by
  rw [match?, htable, Option.map_eq_none_iff, Grant.find?_inMatchOrder_eq_none,
    ← List.forall_mem_map (f := Grant.scope) (P := fun scope => ¬ scope <+: kind.strip path),
    scopes_eq hgrants, List.forall_mem_map]

end KeyTables

namespace Keyring

open KeyTables

variable {number : Nat} {force : Bool} {site site' : Site}

/-- The tables of a document are read from one record. -/
theorem document_of_tablesOf {nesting : Nat} {config : Text} {content : ByteArray}
    {tables : KeyTables} (h : tablesOf nesting config content = .ok tables) :
    ∃ text document, String.fromUTF8? content = some text ∧
      Json.parse nesting text.toList = .ok (.record document) ∧
        KeyTables.ofJson config (.record document) = .ok tables := by
  rw [tablesOf] at h
  cases htext : String.fromUTF8? content with
  | none =>
      rw [htext] at h
      cases h
  | some text =>
      simp only [htext] at h
      cases hjson : Json.parse nesting text.toList with
      | error flaw =>
          rw [hjson] at h
          cases flaw <;> cases h
      | ok json =>
          simp only [hjson] at h
          cases htables : KeyTables.ofJson config json with
          | error fault =>
              rw [htables] at h
              cases h
          | ok found =>
              rw [htables] at h
              cases h
              obtain ⟨document, rfl, -⟩ := grants_of_ofJson htables
              exact ⟨text, document, rfl, hjson, htables⟩

/--
A keyring that was loaded answers from the document that was read: a lookup for a kind finds the
credential of the most specific member of its section, and fails exactly if no prefix in this
section starts the path.
-/
theorem credentialFor_most_specific (hnumber : number < site.keyrings.length)
    (hload : load number force site = .ok .loaded site') :
    ∃ config content text document,
      site.config? number = some config ∧ site.disk.read config = .ok content ∧
      String.fromUTF8? content = some text ∧
      Json.parse site.nesting text.toList = .ok (.record document) ∧
      ∀ kind path,
        (∀ credential, (credentialFor number kind path).result site' = .ok credential ↔
          ∃ member, MostSpecific kind (sectionOf kind document) path member ∧
            Credential.ofJson kind member.2 = .ok credential) ∧
        ∀ failure, (credentialFor number kind path).result site' = .error failure ↔
          failure = .fault (.noCredential kind path) ∧
            ∀ member ∈ sectionOf kind document, ¬ kind.strip member.1 <+: kind.strip path := by
  obtain ⟨config, content, hconfig, hread, htables⟩ := tables_of_loaded hnumber hload
  obtain ⟨text, document, htext, hparse, hjson⟩ := document_of_tablesOf htables
  obtain ⟨_, hdocument, hsections⟩ := grants_of_ofJson hjson
  cases hdocument
  refine ⟨config, content, text, document, hconfig, hread, htext, hparse, fun kind path => ?_⟩
  obtain ⟨grants, hgrants, htable⟩ := hsections kind
  have hsome (credential : Credential) :
      (site'.keyring number).tables.match? kind path = some credential ↔ _ :=
    match?_eq_some_iff hgrants htable
  have hnone : (site'.keyring number).tables.match? kind path = none ↔ _ :=
    match?_eq_none_iff hgrants htable
  simp only [Action.result, credentialFor_eq]
  cases hmatch : (site'.keyring number).tables.match? kind path with
  | some found =>
      simp only [hmatch, Option.some.injEq, reduceCtorEq, false_iff] at hsome hnone
      refine ⟨fun credential => ?_, fun failure => ?_⟩
      · simp only [Except.ok.injEq, ← hsome]
      · simp only [reduceCtorEq, false_iff]
        exact fun hall => hnone hall.2
  | none =>
      simp only [hmatch, reduceCtorEq, false_iff, true_iff] at hsome hnone
      refine ⟨fun credential => ?_, fun failure => ?_⟩
      · simp only [reduceCtorEq, false_iff]
        exact hsome credential
      · simp only [Except.error.injEq, eq_comm (a := Failure.fault _)]
        exact ⟨fun h => ⟨h, hnone⟩, fun h => h.1⟩

/-- A document with two members for one prefix and one for the empty prefix. -/
def keyDocument : List (Text × Json) :=
  [("gs".toList, .record [("b".toList, .text "1".toList), ("gs://b".toList, .text "2".toList),
    ([], .text "3".toList)])]

/-- The text of the document. -/
def keyText : String := "\x7b\"gs\":\x7b\"b\":\"1\",\"gs://b\":\"2\",\"\":\"3\"\x7d\x7d"

/-- A site with the document and a keyring for it. -/
def keySite : Site where
  disk := Disk.fresh.putEntry (.file keyText.toUTF8 0) ⟨Disk.workPlace, "keys".toList⟩
  keyrings := [{ config := some "keys".toList }]

theorem load_keySite :
    load 0 false keySite = .ok .loaded (after (Keyring.load 0 false) keySite) := by
  with_unfolding_all rfl

theorem parse_keyText : Json.parse keySite.nesting keyText.toList = .ok (.record keyDocument) := by
  with_unfolding_all rfl

/-- The earlier one of the two members counts, and the one with the empty prefix does not. -/
theorem credentialFor_earlier_member :
    ∃ site', load 0 false keySite = .ok .loaded site' ∧
      (credentialFor 0 .gcs "gs://b/x".toList).result site' = .ok (.gcs ⟨"1".toList⟩) := by
  obtain ⟨config, content, text, document, hconfig, hread, htext, hparse, hanswers⟩ :=
    credentialFor_most_specific (by decide) load_keySite
  obtain rfl : "keys".toList = config := Option.some.inj hconfig
  obtain rfl : keyText.toUTF8 = content := Except.ok.inj hread
  obtain rfl : keyText = text := Option.some.inj htext
  obtain rfl : keyDocument = document := by
    rw [parse_keyText] at hparse
    exact Json.record.inj (Except.ok.inj hparse)
  refine ⟨_, load_keySite, ((hanswers .gcs _).1 _).2 ⟨_, ⟨?_, ?_, [], _, rfl, nofun⟩, rfl⟩⟩
  · decide
  · decide

end Keyring

end ArtifactDepot
