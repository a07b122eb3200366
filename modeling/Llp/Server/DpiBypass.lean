/-
  `llp-server/dpi_bypass.rs`: which domains need DPI bypass.

  The blocked domains are a hash set, iterated in an order of its own: `Iteration` is any such
  order.

  * `needs_bypass_iff_labels`: a domain needs bypass exactly when the labels of a blocked domain
    are its last labels, in whatever order the set is iterated.
-/
import Mathlib.Data.Finset.Insert
import Llp.Lib.Labels

namespace Llp.Server

/-- `BLOCKED_DOMAINS`. -/
def BLOCKED_DOMAINS : List String := [
  "facebook.com",
  "www.facebook.com",
  "instagram.com",
  "www.instagram.com",
  "twitter.com",
  "x.com",
  "www.twitter.com",
  "www.x.com",
  "youtube.com",
  "www.youtube.com",
  "youtu.be",
  "googlevideo.com",
  "t.me",
  "telegram.org",
  "web.telegram.org",
  "meduza.io",
  "zona.media",
  "novayagazeta.ru",
  "discord.com",
  "linkedin.com",
  "medium.com"]

/-- An order in which a hash set is iterated: every element, once. -/
structure Iteration (s : Finset String) where
  order : List String
  nodup : order.Nodup
  mem : ∀ d, d ∈ order ↔ d ∈ s

/-- `str::ends_with`. -/
def endsWith (s suffix : String) : Bool := suffix.toList.isSuffixOf s.toList

theorem endsWith_iff (s suffix : String) :
    endsWith s suffix = true ↔ suffix.toList <:+ s.toList :=
  List.isSuffixOf_iff_suffix

/-- `DpiBypassManager`, without the IP addresses. -/
structure DpiBypassManager where
  blockedDomains : Finset String

namespace DpiBypassManager

/-- `DpiBypassManager::new`. -/
def new : DpiBypassManager :=
  ⟨BLOCKED_DOMAINS.foldl (fun blocked domain => insert domain blocked) ∅⟩

/-- `needs_bypass`: the domain itself, then the subdomains of each blocked one. -/
def needsBypass (self : DpiBypassManager) (iter : Iteration self.blockedDomains)
    (domain : String) : Bool :=
  if domain ∈ self.blockedDomains then true
  else iter.order.any fun blocked => endsWith domain ("." ++ blocked)

theorem mem_blockedDomains (d : String) : d ∈ new.blockedDomains ↔ d ∈ BLOCKED_DOMAINS := by
  have hfold : ∀ (ds : List String) (s : Finset String),
      d ∈ ds.foldl (fun blocked domain => insert domain blocked) s ↔ d ∈ s ∨ d ∈ ds := by
    intro ds
    induction ds with
    | nil => simp
    | cons e ds ih =>
        intro s
        rw [List.foldl_cons, ih, Finset.mem_insert, List.mem_cons]
        tauto
  exact (hfold BLOCKED_DOMAINS ∅).trans (by simp)

/-- The order of the iteration does not matter. -/
theorem needsBypass_iff (self : DpiBypassManager) (iter : Iteration self.blockedDomains)
    (d : String) :
    self.needsBypass iter d = true ↔
      ∃ blocked ∈ self.blockedDomains, d = blocked ∨ endsWith d ("." ++ blocked) = true := by
  unfold needsBypass
  split
  · next hmem => exact iff_of_true rfl ⟨d, hmem, Or.inl rfl⟩
  · next hmem =>
      rw [List.any_eq_true]
      constructor
      · rintro ⟨blocked, hblocked, hends⟩
        exact ⟨blocked, (iter.mem blocked).mp hblocked, Or.inr hends⟩
      · rintro ⟨blocked, hblocked, rfl | hends⟩
        · exact absurd hblocked hmem
        · exact ⟨blocked, (iter.mem blocked).mpr hblocked, hends⟩

/-- The iteration in the order of the list. -/
def listed : Iteration new.blockedDomains where
  order := BLOCKED_DOMAINS
  nodup := by decide
  mem d := (mem_blockedDomains d).symm

end DpiBypassManager

/-! ## Labels -/

/-- The labels of a domain: the pieces between the dots, empty ones included. -/
def labels (d : String) : List (List Char) := d.toList.splitOn '.'

theorem labels_isSuffix_iff (blocked d : String) :
    labels blocked <:+ labels d ↔ d = blocked ∨ endsWith d ("." ++ blocked) = true := by
  have hdot : ("." ++ blocked).toList = '.' :: blocked.toList := by simp
  rw [labels, labels, List.splitOn_isSuffix_iff, endsWith_iff, hdot, String.toList_inj]
  refine or_congr Iff.rfl ?_
  exact exists_congr fun pre => eq_comm

theorem endsWith_of_labels {blocked d : String} (h : labels blocked <:+ labels d) :
    endsWith d blocked = true := by
  rw [endsWith_iff]
  rcases (labels_isSuffix_iff blocked d).mp h with rfl | hends
  · exact List.suffix_refl _
  · refine List.IsSuffix.trans ?_ ((endsWith_iff _ _).mp hends)
    rw [String.toList_append]
    exact List.suffix_append _ _

/-- A name that ends in a blocked domain in the middle of a label. -/
theorem not_labels_isSuffix_of_inside {blocked d : String} {pre : List Char} {c : Char}
    (hc : c ≠ '.') (hd : d.toList = pre ++ c :: blocked.toList) :
    ¬ labels blocked <:+ labels d := by
  rw [labels, labels, List.splitOn_isSuffix_iff, hd]
  rintro (hsame | ⟨pre', hdot⟩)
  · have := congrArg List.length hsame
    simp at this
    omega
  · have htail := (List.append_inj' hdot (by simp)).2
    exact hc (List.cons.inj htail).1

/-- The labels of a name are the last labels of each of its subdomains. -/
theorem labels_isSuffix_subdomain (sub d : String) :
    labels d <:+ labels (sub ++ "." ++ d) := by
  rw [labels_isSuffix_iff, endsWith_iff]
  refine Or.inr ⟨sub.toList, ?_⟩
  simp

/-- **Bypass matching is label-wise.** In whatever order the set is iterated, a domain needs
    bypass exactly when the labels of some blocked domain are its last labels. Hence a name
    that has blocked domains at its end in the middle of a label only does not, and every
    subdomain of a name that does, does. -/
theorem needs_bypass_iff_labels (iter : Iteration DpiBypassManager.new.blockedDomains) :
    (∀ d, DpiBypassManager.new.needsBypass iter d = true ↔
        ∃ blocked ∈ BLOCKED_DOMAINS, labels blocked <:+ labels d) ∧
      (∀ d, (∀ blocked ∈ BLOCKED_DOMAINS, endsWith d blocked = true →
          ∃ pre c, c ≠ '.' ∧ d.toList = pre ++ c :: blocked.toList) →
        DpiBypassManager.new.needsBypass iter d = false) ∧
      ∀ sub d, DpiBypassManager.new.needsBypass iter d = true →
        DpiBypassManager.new.needsBypass iter (sub ++ "." ++ d) = true := by
  have hiff : ∀ d, DpiBypassManager.new.needsBypass iter d = true ↔
      ∃ blocked ∈ BLOCKED_DOMAINS, labels blocked <:+ labels d := by
    intro d
    rw [DpiBypassManager.needsBypass_iff]
    refine exists_congr fun blocked => ?_
    rw [DpiBypassManager.mem_blockedDomains, labels_isSuffix_iff]
  refine ⟨hiff, fun d hinside => ?_, fun sub d hd => ?_⟩
  · rw [← Bool.not_eq_true, hiff]
    rintro ⟨blocked, hblocked, hsuffix⟩
    obtain ⟨pre, c, hc, hpre⟩ := hinside blocked hblocked (endsWith_of_labels hsuffix)
    exact not_labels_isSuffix_of_inside hc hpre hsuffix
  · obtain ⟨blocked, hblocked, hsuffix⟩ := (hiff d).mp hd
    exact (hiff _).mpr ⟨blocked, hblocked, hsuffix.trans (labels_isSuffix_subdomain sub d)⟩

example : DpiBypassManager.new.needsBypass DpiBypassManager.listed "api.instagram.com" = true ∧
    DpiBypassManager.new.needsBypass DpiBypassManager.listed "myx.com" = false := by
  decide +kernel

end Llp.Server
