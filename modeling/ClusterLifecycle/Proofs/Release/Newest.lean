import ClusterLifecycle.Json.Printer
import ClusterLifecycle.Proofs.Numerals
import ClusterLifecycle.Proofs.Results
import ClusterLifecycle.Proofs.Setup.Serving
import Mathlib.Data.List.Pairwise

/-!
# The newest revision

A secret is a revision if its label denotes a number of 64 bits. The newest revision has the
greatest number and, of several with that number, the last place in the list.

The list is gone through from the left, and what is kept is the newest revision of what was gone
through (`Newest.append_one` for one secret, `newest_latestFrom` for all). So the current release is
what the newest revision says, whatever that is, and no other revision is looked at
(`current_is_newest_revision`).
-/

namespace ClusterLifecycle.Release

open Operator ApiServer

variable {release space : String} {secrets : List Secret} {s : Secret} {n : Nat}

/-! ## Revisions -/

/-- The secret is the revision with the number. -/
def IsRevision (s : Secret) (n : Nat) : Prop :=
  ∃ label, s.metadata.label? "version" = some label ∧ Decimal.Denotes label n ∧ n < 2 ^ 64

theorem revision?_eq_some_iff : revision? s = some n ↔ IsRevision s n := by
  have hpos : 0 < 1 <<< 64 := by decide
  unfold revision? IsRevision
  constructor
  · intro h
    obtain ⟨label, hlabel, hparse⟩ := Option.bind_eq_some_iff.1 h
    cases hnumber : Decimal.parse (1 <<< 64) label with
    | error fault =>
        rw [hnumber] at hparse
        cases hparse
    | ok m =>
        rw [hnumber] at hparse
        cases hparse
        exact ⟨label, hlabel, (Decimal.parse_eq_ok_iff hpos).1 hnumber⟩
  · rintro ⟨label, hlabel, hdenotes⟩
    rw [hlabel, Option.bind_some, (Decimal.parse_eq_ok_iff hpos).2 hdenotes]
    rfl

theorem IsRevision.unique {m : Nat} (hn : IsRevision s n) (hm : IsRevision s m) : n = m := by
  rw [← revision?_eq_some_iff] at hn hm
  exact Option.some.inj (hn.symm.trans hm)

/-! ## The newest one -/

/-- The secret at the position is the revision with the number, every other revision has a smaller
number, or the same one and a place in front of it. -/
structure IsNewest (secrets : List Secret) (n index : Nat) (s : Secret) : Prop where
  isAt : secrets[index]? = some s
  isRevision : IsRevision s n
  newest : ∀ {place : Nat} {other : Secret} {m : Nat}, secrets[place]? = some other →
    IsRevision other m → m < n ∨ m = n ∧ place ≤ index

/-- What was found is the newest revision, or there is none. -/
def Newest (secrets : List Secret) : Option (Nat × Nat × Secret) → Prop
  | none => ∀ s ∈ secrets, ∀ n, ¬ IsRevision s n
  | some (n, index, s) => IsNewest secrets n index s

/-- The places in a list with one more member. -/
theorem getElem?_append_one {t : Secret} {place : Nat} :
    (secrets ++ [s])[place]? = some t ↔
      secrets[place]? = some t ∨ place = secrets.length ∧ t = s := by
  rw [List.getElem?_append]
  by_cases h : place < secrets.length
  · simp only [h, if_true]
    exact ⟨.inl, fun hor => hor.resolve_right fun hlast => by omega⟩
  · have hnone : secrets[place]? = none := List.getElem?_eq_none (by omega)
    simp only [h, if_false, hnone, reduceCtorEq, false_or, List.getElem?_singleton]
    have hlast : place - secrets.length = 0 ↔ place = secrets.length := by omega
    split <;> simp_all [eq_comm]

/-- A place that is taken is one of the list. -/
theorem lt_length_of_getElem? {t : Secret} {place : Nat} (h : secrets[place]? = some t) :
    place < secrets.length :=
  (List.getElem?_eq_some_iff.1 h).1

/-- One more secret that is no revision changes nothing. -/
theorem Newest.append_other {best : Option (Nat × Nat × Secret)} (h : Newest secrets best)
    (hs : ∀ n, ¬ IsRevision s n) : Newest (secrets ++ [s]) best := by
  cases best with
  | none =>
      intro t ht
      rcases List.mem_append.1 ht with ht | ht
      · exact h t ht
      · rw [List.mem_singleton.1 ht]
        exact hs
  | some best =>
      obtain ⟨n, index, found⟩ := best
      refine ⟨getElem?_append_one.2 (.inl h.isAt), h.isRevision, ?_⟩
      intro place other m hplace hm
      rcases getElem?_append_one.1 hplace with hplace | ⟨-, rfl⟩
      · exact h.newest hplace hm
      · exact absurd hm (hs m)

/-- One more revision is the newest if no number before is greater. -/
theorem isNewest_append_one (hn : IsRevision s n)
    (h : ∀ t ∈ secrets, ∀ m, IsRevision t m → m ≤ n) :
    IsNewest (secrets ++ [s]) n secrets.length s := by
  refine ⟨getElem?_append_one.2 (.inr ⟨rfl, rfl⟩), hn, ?_⟩
  intro place other m hplace hm
  rcases getElem?_append_one.1 hplace with hplace | ⟨rfl, rfl⟩
  · have hle := h other (List.mem_of_getElem? hplace) m hm
    have hlt := lt_length_of_getElem? hplace
    omega
  · exact .inr ⟨hm.unique hn, le_rfl⟩

/-- What is kept after one more secret is the newest of what was gone through. -/
theorem Newest.append_one {best : Option (Nat × Nat × Secret)} (h : Newest secrets best) :
    Newest (secrets ++ [s]) (newer secrets.length best s) := by
  unfold newer
  cases hs : revision? s with
  | none =>
      refine h.append_other fun n hn => ?_
      rw [revision?_eq_some_iff.2 hn] at hs
      cases hs
  | some n =>
      have hn := revision?_eq_some_iff.1 hs
      cases best with
      | none => exact isNewest_append_one hn fun t ht m hm => absurd hm (h t ht m)
      | some best =>
          obtain ⟨m, index, found⟩ := best
          have greatest : ∀ t ∈ secrets, ∀ k, IsRevision t k → k ≤ m := by
            intro t ht k hk
            obtain ⟨place, hplace⟩ := List.getElem?_of_mem ht
            have hnewest := h.newest hplace hk
            omega
          -- of two equal numbers the later one counts
          by_cases hle : m ≤ n
          · simp only [hle, if_true]
            exact isNewest_append_one hn fun t ht k hk => (greatest t ht k hk).trans hle
          · simp only [hle, if_false]
            refine ⟨getElem?_append_one.2 (.inl h.isAt), h.isRevision, ?_⟩
            intro place other k hplace hk
            rcases getElem?_append_one.1 hplace with hplace | ⟨-, rfl⟩
            · exact h.newest hplace hk
            · have hkn := hk.unique hn
              omega

/-- Going through the rest of the list keeps the newest. -/
theorem newest_latestFrom {best : Option (Nat × Nat × Secret)} (h : Newest secrets best)
    (rest : List Secret) :
    Newest (secrets ++ rest) (latestFrom secrets.length best rest) := by
  -- induction on what is left, for whatever was gone through before
  induction rest generalizing secrets best with
  | nil => simpa [latestFrom] using h
  | cons s rest ih =>
      have hone : Newest (secrets ++ [s]) (newer secrets.length best s) := h.append_one
      have hrest := ih hone
      rw [List.length_append, List.append_assoc] at hrest
      exact hrest

theorem IsNewest.unique {m index place : Nat} {t : Secret} (h : IsNewest secrets n index s)
    (h' : IsNewest secrets m place t) : index = place ∧ s = t := by
  have hle := h.newest h'.isAt h'.isRevision
  have hge := h'.newest h.isAt h.isRevision
  obtain rfl : index = place := by omega
  exact ⟨rfl, Option.some.inj (h.isAt.symm.trans h'.isAt)⟩

theorem newest_latest (secrets : List Secret) : Newest secrets (latestFrom 0 none secrets) := by
  have h : Newest [] none := by simp [Newest]
  exact newest_latestFrom h secrets

theorem latest?_eq_some_iff {index : Nat} :
    latest? secrets = some (index, s) ↔ ∃ n, IsNewest secrets n index s := by
  have hnewest := newest_latest secrets
  unfold latest?
  -- what was kept is newest, and there is only one newest
  cases hfound : latestFrom 0 none secrets with
  | none =>
      rw [hfound] at hnewest
      simp only [Option.map_none, reduceCtorEq, false_iff, not_exists]
      intro n h
      exact hnewest s (List.mem_of_getElem? h.isAt) n h.isRevision
  | some found =>
      obtain ⟨m, place, t⟩ := found
      rw [hfound] at hnewest
      simp only [Option.map_some, Option.some.injEq, Prod.mk.injEq]
      constructor
      · rintro ⟨rfl, rfl⟩
        exact ⟨m, hnewest⟩
      · rintro ⟨n, h⟩
        obtain ⟨hplace, hsecret⟩ := h.unique hnewest
        exact ⟨hplace.symm, hsecret.symm⟩

theorem latest?_eq_none_iff :
    latest? secrets = none ↔ ∀ s ∈ secrets, ∀ n, ¬ IsRevision s n := by
  have hnewest := newest_latest secrets
  unfold latest?
  cases hfound : latestFrom 0 none secrets with
  | none =>
      rw [hfound] at hnewest
      simp only [Option.map_none, true_iff]
      exact hnewest
  | some found =>
      obtain ⟨m, place, t⟩ := found
      rw [hfound] at hnewest
      simp only [Option.map_some, reduceCtorEq, false_iff, not_forall, not_not]
      exact ⟨t, List.mem_of_getElem? hnewest.isAt, m, hnewest.isRevision⟩

/-! ## What a revision says -/

theorem current_eq_of_newest {index : Nat} (h : IsNewest secrets n index s) :
    current release space secrets = content release s := by
  rw [current, latest?_eq_some_iff.2 ⟨n, h⟩]

theorem exists_of_content_eq_error {f : Failure} (h : content release s = .error f) :
    ∃ message, f = .releaseStorage release message := by
  unfold content at h
  cases hpayload : s.bytes? "release" with
  | none =>
      rw [hpayload] at h
      cases h
      exact ⟨_, rfl⟩
  | some payload =>
      rw [hpayload] at h
      exact exists_of_ofPayload_eq_error h

/-- A release is not found exactly if no secret is a revision. -/
theorem current_eq_notFound_iff :
    current release space secrets = .error (.releaseNotFound release space) ↔
      ∀ s ∈ secrets, ∀ n, ¬ IsRevision s n := by
  rw [← latest?_eq_none_iff]
  constructor
  · intro hcurrent
    by_contra hrevision
    obtain ⟨⟨index, s⟩, hlatest⟩ := Option.ne_none_iff_exists'.1 hrevision
    obtain ⟨n, hs⟩ := latest?_eq_some_iff.1 hlatest
    rw [current_eq_of_newest hs] at hcurrent
    obtain ⟨message, hf⟩ := exists_of_content_eq_error hcurrent
    cases hf
  · intro hrevision
    rw [current, hrevision]

/-! ## The order of the list -/

/-- No two of the secrets are revisions with the same number. -/
def Distinct (secrets : List Secret) : Prop :=
  secrets.Pairwise fun s t => ∀ n, IsRevision s n → ¬ IsRevision t n

theorem Distinct.eq_of_isRevision {t : Secret} (h : Distinct secrets) (hs : s ∈ secrets)
    (ht : t ∈ secrets) (hns : IsRevision s n) (hnt : IsRevision t n) : s = t := by
  have : Std.Symm fun s t : Secret => ∀ n, IsRevision s n → ¬ IsRevision t n :=
    ⟨fun s t hst n hn hm => hst n hm hn⟩
  by_contra hne
  exact List.Pairwise.forall h hs ht hne n hns hnt

/-- If the numbers are distinct, the order of the list does not matter. -/
theorem current_perm {secrets' : List Secret} (hdistinct : Distinct secrets)
    (h : secrets.Perm secrets') :
    current release space secrets = current release space secrets' := by
  cases hlatest : latest? secrets with
  | none =>
      have hnone : latest? secrets' = none := by
        rw [latest?_eq_none_iff] at hlatest ⊢
        exact fun s hs => hlatest s (h.mem_iff.2 hs)
      rw [current, current, hlatest, hnone]
  | some found =>
      obtain ⟨index, s⟩ := found
      obtain ⟨n, hs⟩ := latest?_eq_some_iff.1 hlatest
      cases hlatest' : latest? secrets' with
      | none =>
          have hmem := h.mem_iff.1 (List.mem_of_getElem? hs.isAt)
          exact absurd hs.isRevision (latest?_eq_none_iff.1 hlatest' s hmem n)
      | some found' =>
          obtain ⟨index', t⟩ := found'
          obtain ⟨m, ht⟩ := latest?_eq_some_iff.1 hlatest'
          have hsmem := List.mem_of_getElem? hs.isAt
          have htmem := List.mem_of_getElem? ht.isAt
          -- each of the two is in both lists, so neither has the smaller number
          obtain ⟨place, hplace⟩ := List.getElem?_of_mem (h.mem_iff.2 htmem)
          obtain ⟨place', hplace'⟩ := List.getElem?_of_mem (h.mem_iff.1 hsmem)
          have hle := hs.newest hplace ht.isRevision
          have hge := ht.newest hplace' hs.isRevision
          obtain rfl : n = m := by omega
          have heq := hdistinct.eq_of_isRevision hsmem (h.mem_iff.2 htmem) hs.isRevision
            ht.isRevision
          subst heq
          rw [current_eq_of_newest hs, current_eq_of_newest ht]

/-! ## The current release -/

/-- The operator lists the secrets of a release and gives what is current among them. -/
theorem traces_getRelease {installer : Installer.Settings} {r : Request} {reply : Reply}
    (hr : Collection.secrets.listRequest (some space) (some (selector release)) = .ok r)
    (hreply : reply.read (decodeList? Secret.decode?) = .ok secrets) :
    Traces (perform installer (.getRelease release space)) [⟨.exchange r, reply⟩]
      (.ofExcept (current release space secrets)) :=
  traces_bind.2 (.inr ⟨secrets, [⟨.exchange r, reply⟩], [], rfl,
    ends_resource_iff.2 ⟨r, reply, hr, rfl, hreply⟩, traces_liftExcept.2 ⟨rfl, rfl⟩⟩)

/-- Whatever secrets are listed for a release, the current release is what the newest revision among
them says. There is none exactly if no secret is a revision. If the newest revision holds no release
or a damaged one, that is a failure of the release that was asked for, and older revisions do not
count. If the numbers are distinct, the order of the list does not count either. -/
theorem current_is_newest_revision (release space : String) (secrets : List Secret) :
    (∀ (installer : Installer.Settings) (r : Request) (reply : Reply),
      Collection.secrets.listRequest (some space) (some (selector release)) = .ok r →
        reply.read (decodeList? Secret.decode?) = .ok secrets → ∀ stand,
          (Traces (perform installer (.getRelease release space)) [⟨.exchange r, reply⟩] stand ↔
            stand = .ofExcept (current release space secrets))) ∧
      (current release space secrets = .error (.releaseNotFound release space) ↔
        ∀ s ∈ secrets, ∀ n, ¬ IsRevision s n) ∧
      ((∃ s ∈ secrets, ∃ n, IsRevision s n) → ∃ n index s, IsNewest secrets n index s) ∧
      (∀ n index s, IsNewest secrets n index s →
        current release space secrets = content release s) ∧
      (∀ s f, content release s = .error f → ∃ message, f = .releaseStorage release message) ∧
      (Distinct secrets → ∀ secrets', secrets.Perm secrets' →
        current release space secrets' = current release space secrets) := by
  refine ⟨?_, current_eq_notFound_iff, ?_, fun _ _ _ => current_eq_of_newest,
    fun _ _ => exists_of_content_eq_error, fun hdistinct _ h => (current_perm hdistinct h).symm⟩
  · intro installer r reply hr hreply stand
    have htraces : Traces (perform installer (.getRelease release space)) [⟨.exchange r, reply⟩]
        (.ofExcept (current release space secrets)) := traces_getRelease hr hreply
    exact ⟨fun h => h.unique htraces, fun h => h ▸ htraces⟩
  · rintro ⟨s, hs, n, hn⟩
    -- if none had been found, no secret would be a revision
    cases hlatest : latest? secrets with
    | none => exact absurd hn (latest?_eq_none_iff.1 hlatest s hs n)
    | some found =>
        obtain ⟨m, hm⟩ := latest?_eq_some_iff.1 hlatest
        exact ⟨m, found.1, found.2, hm⟩

/-! ## A release with five secrets -/

namespace Sample

/-- A secret with the text as its number, which holds the record. -/
def stored (label record : String) : Secret where
  metadata := { labels := some [("version", label)], name := some ("v" ++ label) }
  data := some [("release", Base64.encode (Text.Utf8.encode record))]

def tenAgain : Secret :=
  stored "+10" "\x7b\"name\":\"ten again\"\x7d"

/-- Nine is smaller than ten, ten is there twice, and the last two are no revisions. -/
def history : List Secret := [
  stored "9" "\x7b\"name\":\"nine\"\x7d",
  stored "010" "\x7b\"name\":\"ten\"\x7d",
  tenAgain,
  stored "11th" "\x7b\"name\":\"eleven\"\x7d",
  stored "18446744073709551616" "\x7b\"name\":\"too many\"\x7d"]

/-- The reply that lists the secrets. -/
def historyReply : Reply :=
  ⟨200, (Json.ofPairs [("items", .arr (history.map Secret.toJson))]).render⟩

theorem getRelease_history :
    ∃ r, Collection.secrets.listRequest (some "n") (some (selector "b")) = .ok r ∧
      Traces (perform {} (.getRelease "b" "n")) [⟨.exchange r, historyReply⟩]
        (.ends ⟨"ten again", "", "", ""⟩) := by
  obtain ⟨r, hr⟩ : ∃ r,
      Collection.secrets.listRequest (some "n") (some (selector "b")) = .ok r :=
    exists_eq_ok_of_isOk (by decide +kernel)
  have hreply : historyReply.read (decodeList? Secret.decode?) = .ok history :=
    Reply.read_ofList (by decide) (by decide +kernel)
  have hlatest : latest? history = some (2, tenAgain) := by decide +kernel
  have hcontent : content "b" tenAgain = .ok ⟨"ten again", "", "", ""⟩ := by decide +kernel
  obtain ⟨htraces, -, -, hcurrent, -⟩ := current_is_newest_revision "b" "n" history
  obtain ⟨n, hnewest⟩ := latest?_eq_some_iff.1 hlatest
  refine ⟨r, hr, (htraces {} r historyReply hr hreply _).2 ?_⟩
  rw [hcurrent n 2 _ hnewest, hcontent]
  rfl

end Sample

end ClusterLifecycle.Release
