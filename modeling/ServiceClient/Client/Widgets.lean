import ServiceClient.Generator.Generate

/-! A store of widgets, as a service with XML bodies. -/

namespace ServiceClient.Client.Widgets
open ServiceClient.Schema

def service : Service where
  metadata :=
    { endpointPrefix := "widgets",
      protocol := some "rest-xml",
      apiVersion := some "2024-06-01",
      serviceFullName := some "Widget Store",
      serviceId := some "Widgets" }
  operations :=
    [ { name := "DeleteWidget", method := .delete, requestUri := "/widgets/{WidgetId}",
        input := some "GetWidgetRequest", output := none,
        documentation := some "<p>Removes a widget.</p>" },
      { name := "DescribeWidget", method := .get, requestUri := "/widget",
        input := none, output := some "Widget",
        documentation := some "<p>Returns the default widget.</p>" },
      { name := "GetWidget", method := .get, requestUri := "/widgets/{WidgetId}",
        input := some "GetWidgetRequest", output := some "Widget",
        documentation := some "<p>Fetches one widget by id.</p>" },
      { name := "ListWidgets", method := .get, requestUri := "/widgets",
        input := some "ListWidgetsRequest", output := some "ListWidgetsOutput",
        documentation := none },
      { name := "PutWidget", method := .put, requestUri := "/widgets/{WidgetId}",
        input := some "PutWidgetRequest", output := some "PutWidgetOutput",
        documentation := some "<p>Stores raw widget content.</p>" } ]
  shapes :=
    [ { name := "Attributes", kind := .map { shape := "String" } { shape := "Count" } },
      { name := "Body", kind := .primitive .blob },
      { name := "Count", kind := .primitive .integer },
      { name := "Flag", kind := .primitive .boolean },
      { name := "GetWidgetRequest", kind := .struct
          { members :=
              [ ("Id", { shape := "String", location := .uri, locationName := some "WidgetId" }) ],
            required := ["Id"], payload := none } },
      { name := "ListWidgetsOutput", kind := .struct
          { members :=
              [ ("Widgets", { shape := "WidgetList" }),
                ("Prefixes", { shape := "PrefixList", locationName := some "Prefixes" }),
                ("NextToken", { shape := "String" }) ],
            required := ["Widgets"], payload := none } },
      { name := "ListWidgetsRequest", kind := .struct
          { members :=
              [ ("Prefix",
                  { shape := "String", location := .queryString, locationName := some "prefix" }),
                ("MaxItems",
                  { shape := "Count", location := .queryString,
                    locationName := some "max-items" }) ],
            required := [], payload := none } },
      { name := "Message", kind := .primitive .string,
        documentation := some "<p>Free-form text attached to a widget.</p>" },
      { name := "PrefixList", kind := .list { shape := "String", locationName := some "Prefix" } },
      { name := "PutWidgetOutput", kind := .struct
          { members :=
              [ ("ETag", { shape := "String", location := .header, locationName := some "ETag" }),
                ("Version", { shape := "Count" }) ],
            required := [], payload := none } },
      { name := "PutWidgetRequest", kind := .struct
          { members :=
              [ ("Id", { shape := "String", location := .uri, locationName := some "WidgetId" }),
                ("ContentType",
                  { shape := "String", location := .header, locationName := some "Content-Type" }),
                ("Body", { shape := "Body" }) ],
            required := ["Body", "Id"], payload := some "Body" } },
      { name := "Stamp", kind := .primitive .timestamp },
      { name := "String", kind := .primitive .string },
      { name := "TagList", kind := .list { shape := "String", locationName := some "Tag" } },
      { name := "Widget", kind := .struct
          { members :=
              [ ("Id", { shape := "String", documentation := some "<p>Unique widget id.</p>" }),
                ("Count", { shape := "Count" }),
                ("Enabled", { shape := "Flag" }),
                ("Tags", { shape := "TagList" }),
                ("Attributes", { shape := "Attributes" }),
                ("Type", { shape := "String" }),
                ("Note", { shape := "Message" }),
                ("Created", { shape := "Stamp" }) ],
            required := ["Id"], payload := none },
        documentation := some "<p>A stored widget.</p>" },
      { name := "WidgetList", kind := .list { shape := "Widget", locationName := some "Widget" } } ]

/-- The plan of the client. -/
def plan : Codec.Module where
  protocol := .restXml
  shapes :=
    [ { decoder := some ⟨"Attributes", .map "String" "Count" "key" "value"⟩,
        declaration := some ⟨[], "Attributes", .alias (.map "String" "Count")⟩,
        encoder := some ⟨"Attributes", .map "String" "Count" "key" "value"⟩ },
      { decoder := some ⟨"Body", .scalar .blob⟩,
        declaration := some ⟨[], "Body", .alias (.primitive .blob)⟩,
        encoder := some ⟨"Body", .scalar⟩ },
      { decoder := some ⟨"Count", .scalar .integer⟩,
        declaration := some ⟨[], "Count", .alias (.primitive .integer)⟩,
        encoder := some ⟨"Count", .scalar⟩ },
      { decoder := some ⟨"Flag", .scalar .boolean⟩,
        declaration := some ⟨[], "Flag", .alias (.primitive .boolean)⟩,
        encoder := some ⟨"Flag", .scalar⟩ },
      { decoder := none,
        declaration := some ⟨[], "GetWidgetRequest", .struct [⟨[], "id", "String", true⟩]⟩,
        encoder := some ⟨"GetWidgetRequest", .struct [⟨"id", true, .pathParam "WidgetId"⟩]⟩ },
      { decoder :=
          some ⟨"ListWidgetsOutput",
                .struct "ListWidgetsOutput"
                  [ { field := "widgets", wire := "Widget", type := "WidgetList", required := true,
                      collection := some .list, source := .body none },
                    { field := "prefixes", wire := "Prefixes", type := "PrefixList",
                      required := false, collection := some .list,
                      source := .body (some "Prefix") },
                    { field := "next_token", wire := "NextToken", type := "String",
                      required := false, collection := none, source := .body none } ]⟩,
        declaration :=
          some ⟨[], "ListWidgetsOutput",
                .struct
                  [ ⟨[], "widgets", "WidgetList", true⟩,
                    ⟨[], "prefixes", "PrefixList", false⟩,
                    ⟨[], "next_token", "String", false⟩ ]⟩,
        encoder := none },
      { decoder := none,
        declaration :=
          some ⟨[], "ListWidgetsRequest",
                .struct [⟨[], "prefix", "String", false⟩, ⟨[], "max_items", "Count", false⟩]⟩,
        encoder :=
          some ⟨"ListWidgetsRequest",
                .struct
                  [ ⟨"prefix", false, .queryParam "prefix"⟩,
                    ⟨"max_items", false, .queryParam "max-items"⟩ ]⟩ },
      { decoder := some ⟨"WidgetsMessage", .scalar .string⟩,
        declaration :=
          some ⟨[" Free-form text attached to a widget."], "WidgetsMessage",
                .alias (.primitive .string)⟩,
        encoder := some ⟨"WidgetsMessage", .scalar⟩ },
      { decoder := some ⟨"PrefixList", .list "String"⟩,
        declaration := some ⟨[], "PrefixList", .alias (.list "String")⟩,
        encoder := some ⟨"PrefixList", .list "String"⟩ },
      { decoder :=
          some ⟨"PutWidgetOutput",
                .struct "PutWidgetOutput"
                  [ { field := "e_tag", wire := "ETag", type := "String", required := false,
                      collection := none, source := .header (some .string) },
                    { field := "version", wire := "Version", type := "Count", required := false,
                      collection := none, source := .body none } ]⟩,
        declaration :=
          some ⟨[], "PutWidgetOutput",
                .struct [⟨[], "e_tag", "String", false⟩, ⟨[], "version", "Count", false⟩]⟩,
        encoder := none },
      { decoder := none,
        declaration :=
          some ⟨[], "PutWidgetRequest",
                .struct
                  [ ⟨[], "id", "String", true⟩,
                    ⟨[], "content_type", "String", false⟩,
                    ⟨[], "body", "Body", true⟩ ]⟩,
        encoder :=
          some ⟨"PutWidgetRequest",
                .struct
                  [ ⟨"id", true, .pathParam "WidgetId"⟩,
                    ⟨"content_type", false, .header "Content-Type"⟩,
                    ⟨"body", true, .rawPayload⟩ ]⟩ },
      { decoder := some ⟨"Stamp", .scalar .timestamp⟩,
        declaration := some ⟨[], "Stamp", .alias (.primitive .timestamp)⟩,
        encoder := some ⟨"Stamp", .scalar⟩ },
      { decoder := some ⟨"String", .scalar .string⟩,
        declaration := none,
        encoder := some ⟨"String", .scalar⟩ },
      { decoder := some ⟨"TagList", .list "String"⟩,
        declaration := some ⟨[], "TagList", .alias (.list "String")⟩,
        encoder := some ⟨"TagList", .list "String"⟩ },
      { decoder :=
          some ⟨"Widget",
                .struct "Widget"
                  [ { field := "id", wire := "Id", type := "String", required := true,
                      collection := none, source := .body none },
                    { field := "count", wire := "Count", type := "Count", required := false,
                      collection := none, source := .body none },
                    { field := "enabled", wire := "Enabled", type := "Flag", required := false,
                      collection := none, source := .body none },
                    { field := "tags", wire := "Tag", type := "TagList", required := false,
                      collection := some .list, source := .body none },
                    { field := "attributes", wire := "Attributes", type := "Attributes",
                      required := false, collection := some .map, source := .body none },
                    { field := "field_type", wire := "Type", type := "String", required := false,
                      collection := none, source := .body none },
                    { field := "note", wire := "Note", type := "WidgetsMessage", required := false,
                      collection := none, source := .body none },
                    { field := "created", wire := "Created", type := "Stamp", required := false,
                      collection := none, source := .body none } ]⟩,
        declaration :=
          some ⟨[" A stored widget."], "Widget",
                .struct
                  [ ⟨[" Unique widget id."], "id", "String", true⟩,
                    ⟨[], "count", "Count", false⟩,
                    ⟨[], "enabled", "Flag", false⟩,
                    ⟨[], "tags", "TagList", false⟩,
                    ⟨[], "attributes", "Attributes", false⟩,
                    ⟨[], "field_type", "String", false⟩,
                    ⟨[], "note", "WidgetsMessage", false⟩,
                    ⟨[], "created", "Stamp", false⟩ ]⟩,
        encoder :=
          some ⟨"Widget",
                .struct
                  [ ⟨"id", true, .nested "String" "Id"⟩,
                    ⟨"count", false, .nested "Count" "Count"⟩,
                    ⟨"enabled", false, .nested "Flag" "Enabled"⟩,
                    ⟨"tags", false, .nested "TagList" "Tag"⟩,
                    ⟨"attributes", false, .nested "Attributes" "Attributes"⟩,
                    ⟨"field_type", false, .nested "String" "Type"⟩,
                    ⟨"note", false, .nested "WidgetsMessage" "Note"⟩,
                    ⟨"created", false, .nested "Stamp" "Created"⟩ ]⟩ },
      { decoder := some ⟨"WidgetList", .list "Widget"⟩,
        declaration := some ⟨[], "WidgetList", .alias (.list "Widget")⟩,
        encoder := some ⟨"WidgetList", .list "Widget"⟩ } ]
  client :=
    { name := "WidgetsClient",
      docs := [" Client for Widget Store."],
      endpointPrefix := "widgets",
      methods :=
        [ { docs := [" Removes a widget."], name := "delete_widget", operation := "DeleteWidget",
            http := .delete, uri := "/widgets/{WidgetId}", setup := [],
            input := some "GetWidgetRequest", output := none },
          { docs := [" Returns the default widget."], name := "describe_widget",
            operation := "DescribeWidget", http := .get, uri := "/widget", setup := [],
            input := none, output := some ⟨"Widget", "Widget"⟩ },
          { docs := [" Fetches one widget by id."], name := "get_widget", operation := "GetWidget",
            http := .get, uri := "/widgets/{WidgetId}", setup := [],
            input := some "GetWidgetRequest", output := some ⟨"Widget", "Widget"⟩ },
          { docs := [], name := "list_widgets", operation := "ListWidgets", http := .get,
            uri := "/widgets", setup := [], input := some "ListWidgetsRequest",
            output := some ⟨"ListWidgetsOutput", "ListWidgetsOutput"⟩ },
          { docs := [" Stores raw widget content."], name := "put_widget", operation := "PutWidget",
            http := .put, uri := "/widgets/{WidgetId}", setup := [],
            input := some "PutWidgetRequest",
            output := some ⟨"PutWidgetOutput", "PutWidgetOutput"⟩ } ] }

theorem planService_service : Generator.planService service {} = .ok plan :=
  Generator.eq_ok_of_toOption (by decide +kernel)

end ServiceClient.Client.Widgets
