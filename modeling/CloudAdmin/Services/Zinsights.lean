import CloudAdmin.Services.Listing

/-!
# ZInsights

Figures over a range of time, asked for by graph queries.
-/

namespace CloudAdmin.Zinsights

/-- The query for the totals of one report over a range of time. -/
def totals (title group report : String) : String :=
  String.join ["query ", title, "($start: Long!, $end: Long!, $limit: Int) \x7b ", group, " \x7b ",
    report, "(start_time: $start, end_time: $end) \x7b obfuscated entries(limit: $limit) ",
    "\x7b name total \x7d \x7d \x7d \x7d"]

/-- The traffic of each location. -/
def webTrafficByLocation : UInt64 → UInt64 → UInt32 → ServiceCall :=
  .askBetween (totals "WebTrafficByLocation" "WEB_TRAFFIC" "location")

/-- What the firewall did. -/
def firewallByAction : UInt64 → UInt64 → UInt32 → ServiceCall :=
  .askBetween (totals "FirewallByAction" "FIREWALL" "action")

/-- The incidents of each category. -/
def cyberIncidentsByCategory : UInt64 → UInt64 → UInt32 → ServiceCall :=
  .askBetween (totals "CyberIncidents" "CYBER_SECURITY" "categorize_by")

end CloudAdmin.Zinsights
