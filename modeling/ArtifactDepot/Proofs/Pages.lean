import Mathlib.Algebra.Order.Floor.Div
import ArtifactDepot.Proofs.Complete
import ArtifactDepot.Proofs.Gives

/-!
# Pages of a listing

S3 lists the keys of a directory page by page, and a loop gathers the names
from the pages until one of them names no other.  `S3.Gathers` is this loop
with no bound on the number of its rounds.  The bound that `S3.gather` counts
down never ends it (`S3.gathers_gather`), the pages that it asks for are the
first ones in their order (`S3.Gathers.prefix_pageCalls`), and it ends with
the last one.  `S3.contents_pages` draws the conclusions for a directory.
-/

namespace ArtifactDepot

open ArtifactDepot.Action

/-! ## Pages that were asked for -/

/-- Is it the request for a page of a listing? -/
def Call.isPage : Call → Bool
  | .listObjects .. => true
  | _ => false

/-- The pages that have been asked for. -/
def Site.pages (site : Site) : List Call := site.calls.filter Call.isPage

/-- The site with another size of pages. -/
def Site.paging (site : Site) (size : Nat) : Site :=
  { site with cloud := site.cloud.withPageSize size }

/-- Only records have changed, and no page has been asked for. -/
structure Site.Unpaged (before after : Site) : Prop extends Site.Recorded before after where
  pages_eq : after.pages = before.pages

instance : IsPreorder Site Site.Unpaged where
  refl site := ⟨.refl site, rfl⟩
  trans _ _ _ h h' := ⟨h.toRecorded.trans h'.toRecorded, h'.pages_eq.trans h.pages_eq⟩

/-- Tracing asks for no pages. -/
theorem Trace.writes_unpaged : Trace.Writes Site.Unpaged where
  update h := keeps_modify fun site => ⟨⟨rfl, fun _ => id, h site.tracing⟩, rfl⟩
  perform protocol endpoint site :=
    ⟨keeps_perform _ site, by simp [Site.pages, calls_after_perform, Call.isPage]⟩
  note _ := keeps_modify fun _ => ⟨⟨rfl, fun _ => id, id⟩, rfl⟩
  refuse _ := keeps_modify fun _ => ⟨⟨rfl, fun _ => id, id⟩, rfl⟩

namespace S3

variable {name directory path : Text} {bucket : Bucket} {site site' : Site} {token : Option Nat}
  {size page keys : Nat}

/-- The request for a page that starts at a token. -/
abbrev pageCall (name directory : Text) (token : Option Nat) : Call :=
  .listObjects name directory none token

/-- A page is given, or the request for it fails; it is recorded in any case. -/
theorem Client.listObjects_run (directory : Text) (token : Option Nat)
    (hbucket : site.cloud.bucket? .s3 name = some bucket) :
    match listObjects name directory none token site with
    | .ok page site' =>
        page = .of (bucket.keysFrom directory) site.cloud.pageSize (token.getD 0) ∧
          Site.Recorded site site' ∧ site'.pages = site.pages ++ [pageCall name directory token]
    | .error _ site' => site'.pages = site.pages ++ [pageCall name directory token] := by
  have hcalls := calls_after_perform (pageCall name directory token) site
  have hrecorded := keeps_perform (pageCall name directory token) site
  rw [listObjects]
  cases hperform : perform (pageCall name directory token) site with
  | error failure site' =>
      rw [after_error hperform] at hcalls
      rw [bind_error hperform]
      simp [Site.pages, hcalls, Call.isPage]
  | ok value site' =>
      rw [after_ok hperform] at hcalls hrecorded
      rw [← hrecorded.cloud_eq] at hbucket ⊢
      have hfound : Client.bucket name "NoSuchBucket" "ListObjectsV2" site' = .ok bucket site' := by
        rw [Client.bucket, get_bind, hbucket]
        rfl
      rw [bind_ok hperform, bind_ok hfound, get_bind, Option.getD_none, Nat.min_self]
      exact ⟨rfl, hrecorded, by simp [Site.pages, hcalls, Call.isPage]⟩

/-- A page names the next one just if keys follow it. -/
theorem Client.next?_of (keys : List Text) (limit start : Nat) :
    (Page.of keys limit start).next? =
      if start + limit < keys.length then some (start + limit) else none := rfl

/-! ## The loop -/

/-- The names on a page. -/
def namesOn (directory : Text) (page : Client.Page) : Names :=
  Names.ofList (page.keys.filterMap (Key.child? · directory))

/--
The loop over the pages of a listing, with no bound on their number: the requests that it makes
from a token and some names on, and how it ends.
-/
inductive Gathers (name directory : Text) :
    Option Nat → Names → Site → List Call → Except Failure Names → Site → Prop where
  | failed {token : Option Nat} {found : Names} {site site' : Site} {failure : Failure}
      (hpage : Client.listObjects name directory none token site = .error failure site') :
      Gathers name directory token found site [pageCall name directory token] (.error failure) site'
  | last {token : Option Nat} {found : Names} {site site' : Site} {page : Client.Page}
      (hpage : Client.listObjects name directory none token site = .ok page site')
      (hlast : page.next? = none) :
      Gathers name directory token found site [pageCall name directory token]
        (.ok ((namesOn directory page).union found)) site'
  | more {token : Option Nat} {found : Names} {site site₁ site' : Site} {page : Client.Page}
      {next : Nat} {calls : List Call} {outcome : Except Failure Names}
      (hpage : Client.listObjects name directory none token site = .ok page site₁)
      (hmore : page.next? = some next)
      (hrest : Gathers name directory (some next) ((namesOn directory page).union found) site₁ calls
        outcome site') :
      Gathers name directory token found site (pageCall name directory token :: calls) outcome site'

/-- With room for one round more than keys are left the bounded loop runs as the unbounded one. -/
theorem gathers_gather (directory : Text) (bound : Nat) (token : Option Nat) (found : Names)
    (hbucket : site.cloud.bucket? .s3 name = some bucket)
    (hbound : (bucket.keysFrom directory).length < token.getD 0 + bound)
    (htoken : token.getD 0 ≤ (bucket.keysFrom directory).length) :
    ∃ calls outcome site', gather name directory bound token found site = finish outcome site' ∧
      Gathers name directory token found site calls outcome site' := by
  induction bound generalizing token found site with
  | zero => exact absurd hbound (Nat.not_lt.2 htoken)
  | succ bound ih =>
      have hasked := Client.listObjects_run directory token hbucket
      cases hpage : Client.listObjects name directory none token site with
      | error failure site₁ => exact ⟨_, .error failure, site₁, bind_error hpage, .failed hpage⟩
      | ok page site₁ =>
          rw [hpage] at hasked
          obtain ⟨rfl, hrecorded, -⟩ := hasked
          have hnext := Client.next?_of (bucket.keysFrom directory) site.cloud.pageSize
            (token.getD 0)
          rw [gather, bind_ok hpage]
          by_cases hmore : token.getD 0 + site.cloud.pageSize < (bucket.keysFrom directory).length
          · rw [if_pos hmore] at hnext
            rw [hnext]
            have hsize := site.cloud.pageSize_pos
            rw [← hrecorded.cloud_eq] at hbucket
            obtain ⟨calls, outcome, site', hrun, hgathers⟩ := ih
              (some (token.getD 0 + site.cloud.pageSize)) _ hbucket
              (by rw [Option.getD_some]; omega) (Nat.le_of_lt hmore)
            exact ⟨_, outcome, site', hrun, .more hpage hnext hgathers⟩
          · rw [if_neg hmore] at hnext
            rw [hnext]
            exact ⟨_, _, site₁, rfl, .last hpage hnext⟩

/-! ## Numbered pages -/

/-- The token of a page.  Pages are numbered from zero, and the first one needs no token. -/
def pageToken (size page : Nat) : Option Nat := if page = 0 then none else some (page * size)

/-- As many pages as the keys fill, the last one perhaps in part; one if there are no keys. -/
def pageCount (keys size : Nat) : Nat := max 1 (keys ⌈/⌉ size)

theorem pageCount_pos (keys size : Nat) : 0 < pageCount keys size :=
  Nat.lt_of_lt_of_le Nat.one_pos (Nat.le_max_left ..)

/-- The requests for all pages of a listing from some page on, in their order. -/
def pageCallsFrom (name directory : Text) (keys size page : Nat) : List Call :=
  (List.range' page (pageCount keys size - page)).map fun page =>
    pageCall name directory (pageToken size page)

@[simp] theorem getD_pageToken (size page : Nat) : (pageToken size page).getD 0 = page * size := by
  unfold pageToken
  split
  · next hfirst => rw [hfirst, Nat.zero_mul]; rfl
  · rfl

@[simp] theorem length_pageCallsFrom (name directory : Text) (keys size page : Nat) :
    (pageCallsFrom name directory keys size page).length = pageCount keys size - page := by
  rw [pageCallsFrom, List.length_map, List.length_range']

/-- A page is followed by another one just if it ends before the keys do. -/
theorem next_lt_pageCount_iff (hsize : 0 < size) :
    page + 1 < pageCount keys size ↔ page * size + size < keys := by
  have hcover : keys ⌈/⌉ size ≤ page + 1 ↔ keys ≤ page * size + size := by
    rw [ceilDiv_le_iff_le_smul hsize, smul_eq_mul, Nat.mul_succ, Nat.mul_comm]
  unfold pageCount
  omega

theorem pageCallsFrom_next (name directory : Text) (hpage : page < pageCount keys size) :
    pageCallsFrom name directory keys size page =
      pageCall name directory (pageToken size page) ::
        pageCallsFrom name directory keys size (page + 1) := by
  obtain ⟨left, hleft⟩ := Nat.exists_eq_add_of_lt hpage
  rw [pageCallsFrom, pageCallsFrom, hleft, show page + left + 1 - page = left + 1 by omega,
    show page + left + 1 - (page + 1) = left by omega, List.range'_succ, List.map_cons]

/-- The last page is followed by none. -/
theorem pageCallsFrom_last (name directory : Text) (hlast : pageCount keys size ≤ page) :
    pageCallsFrom name directory keys size page = [] := by
  rw [pageCallsFrom, Nat.sub_eq_zero_of_le hlast]
  rfl

/--
From a page on the loop asks for that page and those behind it, one after the other.  A failure may
cut it short; if it ends well it has asked for all of them.
-/
theorem Gathers.asks {found : Names} {calls : List Call} {outcome : Except Failure Names}
    (h : Gathers name directory token found site calls outcome site')
    (hbucket : site.cloud.bucket? .s3 name = some bucket) (hsize : site.cloud.pageSize = size)
    (htoken : token = pageToken size page)
    (hpage : page < pageCount (bucket.keysFrom directory).length size) :
    site'.pages = site.pages ++ calls ∧
      calls <+: pageCallsFrom name directory (bucket.keysFrom directory).length size page ∧
      (outcome.isOk = true →
        calls = pageCallsFrom name directory (bucket.keysFrom directory).length size page) := by
  have hpositive : 0 < size := hsize ▸ site.cloud.pageSize_pos
  induction h generalizing page with
  | @failed token found site site' failure hrun =>
      have hasked := Client.listObjects_run directory token hbucket
      rw [hrun, htoken] at hasked
      rw [pageCallsFrom_next name directory hpage, htoken]
      exact ⟨hasked, List.prefix_append [_] _, nofun⟩
  | @last token found site site' given hrun hlast =>
      have hasked := Client.listObjects_run directory token hbucket
      rw [hrun, htoken] at hasked
      obtain ⟨rfl, -, hpages⟩ := hasked
      have hend : pageCount (bucket.keysFrom directory).length size ≤ page + 1 := by
        rw [Client.next?_of, getD_pageToken, hsize] at hlast
        rw [← Nat.not_lt, next_lt_pageCount_iff hpositive]
        intro hmore
        rw [if_pos hmore] at hlast
        cases hlast
      rw [pageCallsFrom_next name directory hpage, pageCallsFrom_last name directory hend, htoken]
      exact ⟨hpages, List.prefix_rfl, fun _ => rfl⟩
  | @more token found site site₁ site' given next calls outcome hrun hmore hrest ih =>
      have hasked := Client.listObjects_run directory token hbucket
      rw [hrun, htoken] at hasked
      obtain ⟨rfl, hrecorded, hpages⟩ := hasked
      rw [Client.next?_of, getD_pageToken, hsize] at hmore
      split at hmore
      · next hbehind =>
          have hnext : some next = pageToken size (page + 1) := by
            rw [← hmore, pageToken, if_neg (Nat.succ_ne_zero page), Nat.succ_mul]
          rw [← hrecorded.cloud_eq] at hbucket hsize
          obtain ⟨hfollowing, hfront, hall⟩ := ih hbucket hsize hnext
            ((next_lt_pageCount_iff hpositive).2 hbehind)
          rw [pageCallsFrom_next name directory hpage, hfollowing, hpages, htoken]
          refine ⟨by rw [List.append_assoc, List.singleton_append],
            (List.cons_prefix_cons).2 ⟨rfl, hfront⟩, fun hok => ?_⟩
          rw [hall hok]
      · cases hmore

/-! ## Directories -/

/-- The pages are asked for in this order; a failure may cut them short. -/
def Asks (calls : List Call) (action : Action Names) (site : Site) : Prop :=
  match action site with
  | .ok _ site' => site'.pages = site.pages ++ calls
  | .error _ site' => ∃ made, made <+: calls ∧ site'.pages = site.pages ++ made

theorem asks_gather (directory : Text) (hbucket : site.cloud.bucket? .s3 name = some bucket)
    (hbound : (bucket.keysFrom directory).length < keys) :
    Asks (pageCallsFrom name directory (bucket.keysFrom directory).length site.cloud.pageSize 0)
      (gather name directory keys none .empty) site := by
  obtain ⟨calls, outcome, site', hrun, hgathers⟩ :=
    gathers_gather directory keys none .empty hbucket (by simpa using hbound) (Nat.zero_le _)
  have hfirst : none = pageToken site.cloud.pageSize 0 := rfl
  obtain ⟨hpages, hfront, hall⟩ := hgathers.asks hbucket rfl hfirst (pageCount_pos _ _)
  rw [Asks, hrun]
  cases outcome with
  | ok names => exact hall rfl ▸ hpages
  | error failure => exact ⟨calls, hfront, hpages⟩

theorem Asks.during {calls : List Call} {action : Action Names} {task : Task}
    (h : Asks calls action site) : Asks calls (during task path action) site := by
  unfold Asks at h ⊢
  cases hrun : action site with
  | ok names site' =>
      rw [hrun] at h
      rw [Action.during, wrapping, recover_ok hrun]
      exact h
  | error failure site' =>
      rw [hrun] at h
      rw [Action.during, wrapping, recover_error hrun]
      cases failure <;> exact h

/-- Tracing asks for no pages of its own. -/
theorem Asks.traced {calls : List Call} {action : Action Names} {operation : Operation}
    {kind : Kind} (h : ∀ site', Site.Unpaged site site' → Asks calls action site') :
    Asks calls (Trace.traced operation kind path action) site := by
  rcases Trace.traced_by Trace.writes_unpaged operation kind path action site with
    ⟨reason, site', hrun, hkept, -⟩ | hframed
  · rw [Asks, hrun]
    exact ⟨[], List.nil_prefix, by rw [List.append_nil, hkept.pages_eq]⟩
  · cases hframed with
    | ok hbefore hrun hafter hresult =>
        have hasked := h _ hbefore
        rw [Asks, hrun] at hasked
        rw [Asks, hresult]
        exact hafter.pages_eq.trans (hbefore.pages_eq ▸ hasked)
    | error hbefore hrun hafter hresult =>
        have hasked := h _ hbefore
        rw [Asks, hrun] at hasked
        obtain ⟨made, hfront, hmade⟩ := hasked
        rw [Asks, hresult]
        exact ⟨made, hfront, hafter.pages_eq.trans (hbefore.pages_eq ▸ hmade)⟩

/-- All keys of a directory on one page. -/
def wholePage (bucket : Bucket) (directory : Text) : Client.Page :=
  .of (bucket.keysFrom directory) (bucket.keysFrom directory).length 0

/-- Where a page has room for all keys it is the only one. -/
theorem of_eq_wholePage (bucket : Bucket) (directory : Text)
    (hroom : (bucket.keysFrom directory).length ≤ size) :
    Client.Page.of (bucket.keysFrom directory) size 0 = wholePage bucket directory := by
  rw [wholePage, Client.Page.of, Client.Page.of, List.drop_zero, List.take_of_length_le hroom,
    List.take_length, if_neg (by omega), if_neg (by omega)]

/-- The children of a directory are the names on a page of all its keys. -/
theorem namesOn_wholePage (bucket : Bucket) (key : Text) :
    namesOn (Key.asDirectory key) (wholePage bucket (Key.asDirectory key)) =
      bucket.children key := by
  rw [namesOn, wholePage, Client.Page.of, List.drop_zero, List.take_length]
  rfl

variable {address : Address}

/-- The bound that a listing starts with exceeds the number of its keys. -/
theorem pageBound_run (hbucket : site.cloud.bucket? .s3 name = some bucket) :
    pageBound name site = .ok (bucket.length + 1) site := by
  rw [pageBound, get_bind, hbucket]
  rfl

theorem asks_contents (haddress : parse path = .ok address)
    (hbucket : site.cloud.bucket? .s3 address.bucket = some bucket) :
    Asks (pageCallsFrom address.bucket (Key.asDirectory address.key)
      (bucket.keysFrom (Key.asDirectory address.key)).length site.cloud.pageSize 0)
      (contents path) site := by
  refine Asks.traced fun site' hkept => ?_
  rw [← hkept.cloud_eq] at hbucket ⊢
  have hasked := asks_gather (Key.asDirectory address.key) hbucket
    (Nat.lt_succ_of_le (bucket.length_keysFrom_le _))
  have hrule : ofRule (parse path) site' = .ok address site' := by rw [haddress]; rfl
  rw [Asks, bind_ok hrule, bind_ok (pageBound_run hbucket)]
  exact hasked.during

/--
The listing of a directory: it asks for each page once, and the names are those on a single page of
all keys.
-/
structure Paged (path : Text) (address : Address) (bucket : Bucket) (site : Site) : Prop where
  /-- The loop ends by itself; the bound that is counted down does not stop it. -/
  loop : ∀ {bound site'}, pageBound address.bucket site = .ok bound site' →
    ∃ calls outcome site',
      gather address.bucket (Key.asDirectory address.key) bound none .empty site =
        finish outcome site' ∧
      Gathers address.bucket (Key.asDirectory address.key) none .empty site calls outcome site'
  /-- There is one request for every page that the keys fill, and one if there are no keys. -/
  count : (pageCallsFrom address.bucket (Key.asDirectory address.key)
    (bucket.keysFrom (Key.asDirectory address.key)).length site.cloud.pageSize 0).length =
      max 1 ((bucket.keysFrom (Key.asDirectory address.key)).length ⌈/⌉ site.cloud.pageSize)
  /-- Nothing but a failed request, or tracing, is in the way of a result. -/
  ends : site.Answers .s3 address.bucket → Trace.Passable site path →
    ∃ names site', contents path site = .ok names site'
  /-- These are the requests if there is a result; a failure comes after the first ones of them. -/
  asks : Asks (pageCallsFrom address.bucket (Key.asDirectory address.key)
    (bucket.keysFrom (Key.asDirectory address.key)).length site.cloud.pageSize 0)
      (contents path) site
  /-- Where a page has room for all keys the first request gives them. -/
  whole : ∀ {page site'},
    (bucket.keysFrom (Key.asDirectory address.key)).length ≤ site.cloud.pageSize →
      Client.listObjects address.bucket (Key.asDirectory address.key) none none site =
          .ok page site' →
        page = wholePage bucket (Key.asDirectory address.key)
  /-- No name is lost or invented between pages. -/
  names_eq : ∀ {names site'}, contents path site = .ok names site' →
    names = namesOn (Key.asDirectory address.key) (wholePage bucket (Key.asDirectory address.key))
  /-- The size of the pages does not matter. -/
  resized : ∀ size, site.Answers .s3 address.bucket → Trace.Passable site path →
    result (contents path) (site.paging size) = result (contents path) site

/--
Every directory of a bucket is listed page by page, whatever keys the bucket has and however many
of them a page takes.
-/
theorem contents_pages (haddress : parse path = .ok address)
    (hbucket : site.cloud.bucket? .s3 address.bucket = some bucket) :
    Paged path address bucket site where
  loop hbound := by
    rw [pageBound_run hbucket] at hbound
    cases hbound
    have hroom := Nat.lt_succ_of_le (bucket.length_keysFrom_le (Key.asDirectory address.key))
    exact gathers_gather _ _ none .empty hbucket (by simpa using hroom) (Nat.zero_le _)
  count := length_pageCallsFrom ..
  ends hanswers hpassable := by
    obtain ⟨site', hrun, -⟩ := (contents_yields haddress hbucket).run hanswers hpassable
    exact ⟨_, site', hrun⟩
  asks := asks_contents haddress hbucket
  whole hroom hrun := by
    have hasked := Client.listObjects_run (Key.asDirectory address.key) none hbucket
    rw [hrun] at hasked
    exact hasked.1.trans (of_eq_wholePage bucket _ hroom)
  names_eq hrun := by
    obtain ⟨hvalue, -⟩ := (contents_yields haddress hbucket).ok hrun
    rw [namesOn_wholePage bucket address.key]
    exact (Option.some.inj hvalue).symm
  resized size hanswers hpassable := by
    obtain ⟨site₁, hrun, -⟩ := (contents_yields haddress hbucket).run hanswers hpassable
    have hother : Yields path .s3 address.bucket [] (some (bucket.children address.key))
        (contents path) (site.paging size) := contents_yields haddress hbucket
    obtain ⟨site₂, hrun', -⟩ := hother.run hanswers hpassable
    rw [result_of_ok hrun, result_of_ok hrun']

/-- Four keys. -/
def fourKeys : Bucket := ['1', '2', '3', '4'].map fun c => ([c], ⟨.empty, Object.usualMoment⟩)

/-- Four keys fill two pages of two, and the second page names no third one. -/
theorem contents_pages_full :
    ∃ names site', contents (Kind.s3.scheme ++ ['b'])
        ((Site.storing .s3 ['b'] fourKeys).paging 2) = .ok names site' ∧
      site'.pages.length = 2 := by
  have hpaged : Paged (Kind.s3.scheme ++ ['b']) ⟨['b'], []⟩ fourKeys
      ((Site.storing .s3 ['b'] fourKeys).paging 2) := contents_pages rfl rfl
  have hpassable : Trace.Passable (Site.storing .s3 ['b'] fourKeys) (Kind.s3.scheme ++ ['b']) :=
    Site.passable_storing _
  obtain ⟨names, site', hrun⟩ := hpaged.ends (fun _ _ => rfl) hpassable
  refine ⟨names, site', hrun, ?_⟩
  have hasked := hpaged.asks
  rw [Asks, hrun] at hasked
  have hkeys : (fourKeys.keysFrom (Key.asDirectory [])).length = 4 := by
    rw [Bucket.keysFrom, Text.sort, List.length_mergeSort]
    decide
  rw [hasked, List.length_append, hpaged.count, hkeys]
  rfl

end S3

end ArtifactDepot
