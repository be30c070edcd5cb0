import TableDesk.Table

/-!
The tables that are listed as long as there is no catalog file.
-/

namespace TableDesk

def sampleTables : List Table := [
  ⟨some "Jira Software", "AO_60DB71_RAPIDVIEW", some 42⟩,
  ⟨some "Jira Software", "AO_60DB71_SPRINT", some 318⟩,
  ⟨some "Jira Software", "AO_60DB71_COLUMN", some 167⟩,
  ⟨some "Streams Inline Actions", "AO_563AEE_ACTIVITY_ENTITY", some 0⟩,
  ⟨some "Streams Inline Actions", "AO_563AEE_ACTOR_ENTITY", some 0⟩,
  ⟨some "WebHooks Plugin", "AO_4AEACD_WEBHOOK_DAO", some 3⟩,
  ⟨some "Whitelist Plugin", "AO_21D670_WHITELIST_RULES", none⟩,
  ⟨none, "AO_9412A1_AOUSER", some 12⟩,
  ⟨none, "AO_9412A1_AONOTIFICATION", none⟩]

end TableDesk
