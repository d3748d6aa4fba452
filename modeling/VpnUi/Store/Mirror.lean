import VpnUi.Panel.Limits
import VpnUi.Store.Requests

namespace VpnUi.Store

open Foundation Panel

/-! The accounts of the settings and the rows of client_traffics, which the
operations write separately. -/

variable {agrees : Limits → ClientTraffic → Prop}

/-- The clients of one inbound have their rows, and the rows of the inbound their
clients. -/
structure Covered (agrees : Limits → ClientTraffic → Prop) (inboundId : Int)
    (settings : JsonText) (traffics : Table ClientTraffic.email) : Prop where
  row : ∀ client ∈ limits settings, client.email ≠ "" →
    ∃ stat ∈ traffics, stat.email = client.email ∧
      stat.inboundId = inboundId ∧ agrees client stat
  client : ∀ stat ∈ traffics, stat.inboundId = inboundId →
    stat.email ∈ emails settings
  distinct : (lowerNames (emails settings)).Nodup

/-- No e-mail of these settings is one of another inbound. -/
def ApartFrom (inbounds : StoredInbounds) (inboundId : Int)
    (settings : JsonText) : Prop :=
  ∀ other ∈ inbounds, other.id ≠ inboundId →
    ∀ name ∈ lowerNames (emails settings),
      name ∉ lowerNames (emails other.settings)

structure Mirrored (agrees : Limits → ClientTraffic → Prop)
    (database : Database) : Prop where
  covered : ∀ inbound ∈ database.inbounds,
    Covered agrees inbound.id inbound.settings database.traffics
  apart : ∀ inbound ∈ database.inbounds,
    ApartFrom database.inbounds inbound.id inbound.settings
  owned : ∀ stat ∈ database.traffics,
    ∃ inbound ∈ database.inbounds, inbound.id = stat.inboundId
  named : ∀ stat ∈ database.traffics, stat.email ≠ ""

/-- The rows of the other inbounds are the ones from before. -/
def SameElsewhere (inboundId : Int)
    (before after : Table ClientTraffic.email) : Prop :=
  ∀ stat : ClientTraffic, stat.inboundId ≠ inboundId →
    (stat ∈ after ↔ stat ∈ before)

theorem SameElsewhere.refl {inboundId : Int}
    {traffics : Table ClientTraffic.email} :
    SameElsewhere inboundId traffics traffics := fun _ _ => Iff.rfl

theorem SameElsewhere.trans {inboundId : Int}
    {first second third : Table ClientTraffic.email}
    (before : SameElsewhere inboundId first second)
    (after : SameElsewhere inboundId second third) :
    SameElsewhere inboundId first third :=
  fun stat other => (after stat other).trans (before stat other)

theorem Covered.elsewhere {inboundId changed : Int} {settings : JsonText}
    {before after : Table ClientTraffic.email}
    (covered : Covered agrees inboundId settings before)
    (same : SameElsewhere changed before after)
    (differs : inboundId ≠ changed) :
    Covered agrees inboundId settings after where
  row := by
    intro client member nonempty
    obtain ⟨stat, inTable, named, owner, agreed⟩ :=
      covered.row client member nonempty
    exact ⟨stat, (same stat (owner ▸ differs)).mpr inTable, named, owner,
      agreed⟩
  client := by
    intro stat inTable owner
    exact covered.client stat ((same stat (owner ▸ differs)).mp inTable) owner
  distinct := covered.distinct

namespace Mirrored

variable {database : Database} (mirrored : Mirrored agrees database)
include mirrored

/-- Save one inbound and change its rows only. -/
theorem save {saved : StoredInbound} {traffics : Table ClientTraffic.email}
    {ips : Table ClientIps.clientEmail}
    (covered : Covered agrees saved.id saved.settings traffics)
    (apart : ApartFrom database.inbounds saved.id saved.settings)
    (same : SameElsewhere saved.id database.traffics traffics)
    (named : ∀ stat ∈ traffics, stat.email ≠ "") :
    Mirrored agrees ⟨database.inbounds.save saved, traffics, ips⟩ where
  covered := by
    intro inbound member
    rcases Table.mem_save.mp member with rfl | ⟨old, differs⟩
    · exact covered
    · exact (mirrored.covered inbound old).elsewhere same differs
  apart := by
    intro inbound member other otherMember differs name
    rcases Table.mem_save.mp member with rfl | ⟨old, -⟩
    · rcases Table.mem_save.mp otherMember with rfl | ⟨otherOld, -⟩
      · exact absurd rfl differs
      · exact apart other otherOld differs name
    · rcases Table.mem_save.mp otherMember with rfl | ⟨otherOld, -⟩
      · exact fun inOld inSaved =>
          apart inbound old (Ne.symm differs) name inSaved inOld
      · exact mirrored.apart inbound old other otherOld differs name
  owned := by
    intro stat member
    by_cases own : stat.inboundId = saved.id
    · exact ⟨saved, Table.mem_save.mpr (.inl rfl), own.symm⟩
    · obtain ⟨inbound, old, owner⟩ :=
        mirrored.owned stat ((same stat own).mp member)
      exact ⟨inbound, Table.mem_save.mpr (.inr ⟨old, owner ▸ own⟩), owner⟩
  named := named

/-- A row is found with the e-mail of a client. -/
theorem find? {inbound : StoredInbound} (member : inbound ∈ database.inbounds)
    {client : Limits} (listed : client ∈ limits inbound.settings)
    (nonempty : client.email ≠ "") :
    ∃ stat, database.traffics.find? client.email = some stat ∧
      stat.inboundId = inbound.id ∧ agrees client stat := by
  obtain ⟨stat, inTable, named, owner, agreed⟩ :=
    (mirrored.covered inbound member).row client listed nonempty
  exact ⟨stat, Table.find?_eq_some.mpr ⟨inTable, named⟩, owner, agreed⟩

/-- An e-mail that no client has is in no row. -/
theorem find?_none {email : String}
    (fresh : ∀ inbound ∈ database.inbounds,
      toLower email ∉ lowerNames (emails inbound.settings)) :
    database.traffics.find? email = none := by
  rw [Table.find?_eq_none]
  rintro stat member rfl
  obtain ⟨inbound, stored, owner⟩ := mirrored.owned stat member
  apply fresh inbound stored
  exact mem_lowerNames.mpr ⟨stat.email,
    (mirrored.covered inbound stored).client stat member owner.symm,
    mirrored.named stat member, rfl⟩

end Mirrored

theorem mirrored_empty : Mirrored agrees ⟨.empty, .empty, .empty⟩ :=
  ⟨fun _ member => absurd member Table.not_mem_empty,
    fun _ member => absurd member Table.not_mem_empty,
    fun _ member => absurd member Table.not_mem_empty,
    fun _ member => absurd member Table.not_mem_empty⟩

end VpnUi.Store
