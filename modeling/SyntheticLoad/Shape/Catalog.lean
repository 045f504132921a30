import SyntheticLoad.Field.Kind
import SyntheticLoad.Shape.Basic

/-!
# The fields of the shapes

What each shape declares, in the order in which the values are drawn.
-/

namespace SyntheticLoad.Shape

/-- A slot of a template. -/
def slot (token : String) : String := "\x7b" ++ token ++ "\x7d"

/-- The countries of users and events. -/
def countries : List String :=
  ["USA", "UK", "Canada", "Germany", "France", "Japan", "Australia", "Brazil", "India", "China"]

/-- The cities of users and events. -/
def cities : List String :=
  ["New York", "London", "Toronto", "Berlin", "Paris", "Tokyo", "Sydney", "São Paulo", "Mumbai",
    "Beijing"]

/-- The tags of users. -/
def tags : List String :=
  ["premium", "sale", "new", "featured", "trending", "limited", "exclusive", "popular",
    "recommended", "bestseller"]

/-- Four numbers of an address, the first of which is not zero. -/
def ipAddress : String :=
  slot "int:1-255" ++ "." ++ slot "int:0-255" ++ "." ++ slot "int:0-255" ++ "." ++ slot "int:0-255"

/-- A browser on a platform. -/
def userAgent : String :=
  "Mozilla/5.0 (" ++
    slot "pick:Windows NT 10.0|Macintosh; Intel Mac OS X 10_15_7|X11; Linux x86_64" ++ ") " ++
    slot "pick:Chrome/120.0|Firefox/121.0|Safari/17.0|Edge/120.0"

/-- How many days back an instant of a record may lie. -/
def recentDays : UInt32 := 365

/-- The fields of a user. -/
def userFields : List Field :=
  [("user_id", .uuid),
    ("username", .letters 12),
    ("email", .template (slot "lower:8" ++ "@" ++
      slot "pick:gmail.com|yahoo.com|outlook.com|company.com|test.org")),
    ("full_name", .template (slot "capital:6" ++ " " ++ slot "capital:8")),
    ("age", .intRange 18 80),
    ("phone", .template ("+1-" ++ slot "int:200-999" ++ "-" ++ slot "int:100-999" ++ "-" ++
      slot "int:1000-9999")),
    ("country", .oneOf countries),
    ("city", .oneOf cities),
    ("status", .oneOf ["active", "inactive", "pending", "suspended", "verified", "deleted"]),
    ("is_verified", .bool),
    ("is_premium", .bool),
    ("created_at", .recentInstant recentDays),
    ("last_login", .recentInstant recentDays),
    ("login_count", .intRange 0 1000),
    ("account_balance", .floatRange 0.0 50000.0),
    ("tags", .selection tags 1 4)]

/-- The fields of a transaction. -/
def transactionFields : List Field :=
  [("transaction_id", .uuid),
    ("user_id", .uuid),
    ("amount", .floatRange 1.0 5000.0),
    ("currency", .oneOf ["USD", "EUR", "GBP", "JPY", "CAD"]),
    ("payment_method", .oneOf
      ["credit_card", "debit_card", "paypal", "bank_transfer", "crypto", "cash"]),
    ("product_name", .oneOf
      ["Laptop", "Phone", "Tablet", "Monitor", "Keyboard", "Mouse", "Headphones", "Camera",
        "Speaker", "Watch"]),
    ("category", .oneOf
      ["Electronics", "Clothing", "Food", "Books", "Sports", "Home", "Garden", "Automotive",
        "Health", "Beauty"]),
    ("quantity", .intRange 1 20),
    ("discount_applied", .bool),
    ("discount_amount", .floatRange 0.0 500.0),
    ("tax_amount", .floatRange 0.0 200.0),
    ("shipping_cost", .floatRange 0.0 50.0),
    ("status", .oneOf ["completed", "pending", "failed", "refunded", "cancelled"]),
    ("created_at", .recentInstant recentDays),
    ("updated_at", .recentInstant recentDays),
    ("ip_address", .template ipAddress),
    ("user_agent", .template userAgent),
    ("session_id", .uuid),
    ("referrer", .oneOf ["google", "facebook", "twitter", "direct", "email", "affiliate"])]

/-- The fields of an event's own record. -/
def eventMetadataFields : List Field :=
  [("custom_field_1", .letters 20),
    ("custom_field_2", .intRange 1 100000),
    ("custom_field_3", .bool)]

/-- The fields of an event. -/
def eventFields : List Field :=
  [("event_id", .uuid),
    ("event_type", .oneOf
      ["page_view", "click", "scroll", "form_submit", "video_play", "download", "purchase",
        "signup", "logout"]),
    ("user_id", .uuid),
    ("session_id", .uuid),
    ("timestamp", .recentInstant recentDays),
    ("page_url", .template ("https://example.com/" ++ slot "letters:10")),
    ("page_title", .template ("Page " ++ slot "letters:15")),
    ("duration_ms", .intRange 100 60000),
    ("screen_width", .oneOfInt [1920, 1366, 1440, 2560, 1280]),
    ("screen_height", .oneOfInt [1080, 768, 900, 1440, 720]),
    ("browser", .oneOf ["Chrome", "Firefox", "Safari", "Edge", "Opera"]),
    ("os", .oneOf ["Windows", "macOS", "Linux", "iOS", "Android"]),
    ("device_type", .oneOf ["desktop", "mobile", "tablet"]),
    ("ip_address", .template ipAddress),
    ("country", .oneOf countries),
    ("city", .oneOf cities),
    ("referrer", .template ("https://" ++ slot "letters:8" ++ ".com")),
    ("metadata", .nested eventMetadataFields)]

/-- The fields of a profile's address. -/
def addressFields : List Field :=
  [("street", .alphanumeric 20),
    ("city", .alphanumeric 12),
    ("country", .alphanumeric 10),
    ("postal_code", .alphanumeric 6)]

/-- The fields of a profile's contact details. -/
def contactFields : List Field :=
  [("phone", .template ("+" ++ slot "int:1-999" ++ "-" ++ slot "alnum:10")),
    ("alternative_email", .template (slot "alnum:8" ++ "@" ++ slot "alnum:6" ++ ".org"))]

/-- The fields of a profile's preferences. -/
def preferenceFields : List Field :=
  [("communication_channels", .selection ["email", "phone", "sms", "whatsapp", "telegram"] 1 4),
    ("interests", .textList 3 10 8)]

/-- The fields of a profile's occupation. -/
def professionalFields : List Field :=
  [("occupation", .alphanumeric 15),
    ("skills", .textList 5 15 8),
    ("years_of_experience", .intRange 0 30)]

/-- The fields of a profile. -/
def profileFields : List Field :=
  [("id", .uuid),
    ("name", .template (slot "alnum:10" ++ " " ++ slot "alnum:10")),
    ("email", .template (slot "alnum:8" ++ "@" ++ slot "alnum:6" ++ ".com")),
    ("age", .intRange 18 80),
    ("active", .bool),
    ("registration_date", .template ("2024-" ++ slot "int:1-12:2" ++ "-" ++ slot "int:1-28:2")),
    ("address", .nested addressFields),
    ("contact_details", .nested contactFields),
    ("preferences", .nested preferenceFields),
    ("professional_info", .nested professionalFields),
    ("additional_metadata", .randomKeys 10 6 5 20)]

/-- The fields of a shape. -/
def fields : Shape → List Field
  | user => userFields
  | transaction => transactionFields
  | event => eventFields
  | profile => profileFields

end SyntheticLoad.Shape
